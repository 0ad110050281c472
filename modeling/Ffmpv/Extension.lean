/-
Extension lookup: `gl_check_extension`.

The driver reports its extensions as one space-separated string; `gl_check_extension`
looks for `ext` with `strstr` and accepts an occurrence that starts the string or
follows a space, and ends the string or is followed by a space.  After a rejected
occurrence it resumes `strlen(ext)` characters further on.

* `strstr_eq_some`, `strstr_eq_none` — `strstr` finds the first occurrence from a
  position on;
* `checkLoop_spec` — the loop invariant: no word occurrence starts before `cur`, and
  skipping `strlen(ext)` characters after a rejected occurrence keeps it when `ext` has no
  space;
* `mem_splitOn_iff_isWord` — the words of a string split at every space are the
  occurrences between boundaries;
* `glCheckExtension_eq` — for every extension string and every non-empty `ext` without
  spaces, `gl_check_extension` returns, and returns whether `ext` is one of the words of
  the string split at every space;
* `checkLoop_empty_spins` — with an empty `ext` the loop can run forever.

Design notes: C strings are `CStr`, the characters before the NUL, which is a field
of its own; reading `cur[len]` past the last character yields the NUL.  The loop runs
on fuel `length + 1`; `none` means it has not returned within that many rounds, which
happens only for an empty `ext`, where the C loop can spin forever.
-/
import Mathlib.Data.List.Basic
import Ffmpv.GL.State

namespace Mpv

/-- A NUL-terminated C string: the characters before the terminator. -/
structure CStr where
  chars : List Char
  nul_free : '\x00' ∉ chars

/-- `s[i]`, reading the terminating NUL past the last character. -/
def charAt (s : List Char) (i : ℕ) : Char := s[i]?.getD '\x00'

/-- `strstr(s + i, needle)` as an index of `s`, scanning the suffix `rest = s.drop i`. -/
def strstrFrom (needle : List Char) : List Char → ℕ → Option ℕ
  | [], i => if needle = [] then some i else none
  | c :: rest, i => if needle <+: c :: rest then some i else strstrFrom needle rest (i + 1)

/-- `strstr(s + cur, needle)`, as an index of `s`. -/
def strstr (s needle : List Char) (cur : ℕ) : Option ℕ := strstrFrom needle (s.drop cur) cur

/-- The `while (cur)` loop of `gl_check_extension`, for at most `fuel` rounds. -/
def checkLoop (s ext : List Char) : ℕ → ℕ → Option Bool
  | 0, _ => none
  | fuel + 1, cur =>
    match strstr s ext cur with
    | none => some false
    | some p =>
      if (p = 0 ∨ charAt s (p - 1) = ' ') ∧
          (charAt s (p + ext.length) = '\x00' ∨ charAt s (p + ext.length) = ' ') then
        some true
      else checkLoop s ext fuel (p + ext.length)

/-- `gl_check_extension(extensions, ext)`. -/
def glCheckExtension (extensions ext : CStr) : Option Bool :=
  checkLoop extensions.chars ext.chars (extensions.chars.length + 1) 0

/-! ### Occurrences -/

/-- `needle` occurs in `s` at index `p`. -/
def OccursAt (s needle : List Char) (p : ℕ) : Prop := needle <+: s.drop p

/-- `ext` occurs in `s` at `p` as a whole word: after the start or a space, and before the
end or a space. -/
def WordAt (s ext : List Char) (p : ℕ) : Prop :=
  OccursAt s ext p ∧ (p = 0 ∨ charAt s (p - 1) = ' ') ∧
    (charAt s (p + ext.length) = '\x00' ∨ charAt s (p + ext.length) = ' ')

/-! ### `strstr` -/

theorem drop_succ_of_drop_eq_cons {s rest : List Char} {cur : ℕ} {c : Char}
    (h : s.drop cur = c :: rest) : s.drop (cur + 1) = rest := by
  rw [← List.drop_drop, h, List.drop_one, List.tail_cons]

theorem strstrFrom_eq_some (needle : List Char) :
    ∀ (rest s : List Char) (cur p : ℕ), s.drop cur = rest → strstrFrom needle rest cur = some p →
      cur ≤ p ∧ OccursAt s needle p ∧ ∀ q, cur ≤ q → q < p → ¬OccursAt s needle q
  | [], s, cur, p, hs, h => by
    by_cases hn : needle = []
    · simp only [strstrFrom, hn, if_true, Option.some.injEq] at h
      subst h hn
      exact ⟨le_rfl, List.nil_prefix, fun q h1 h2 => absurd h2 (by omega)⟩
    · simp [strstrFrom, hn] at h
  | c :: rest, s, cur, p, hs, h => by
    unfold strstrFrom at h
    split_ifs at h with hp
    · cases h
      refine ⟨le_rfl, ?_, fun q h1 h2 => absurd h2 (by omega)⟩
      rwa [OccursAt, hs]
    · obtain ⟨hle, hocc, hmin⟩ :=
        strstrFrom_eq_some needle rest s (cur + 1) p (drop_succ_of_drop_eq_cons hs) h
      refine ⟨by omega, hocc, fun q h1 h2 hq => ?_⟩
      rcases Nat.eq_or_lt_of_le h1 with rfl | h1
      · rw [OccursAt, hs] at hq
        exact hp hq
      · exact hmin q h1 h2 hq

theorem strstrFrom_eq_none (needle : List Char) :
    ∀ (rest s : List Char) (cur : ℕ), s.drop cur = rest → strstrFrom needle rest cur = none →
      ∀ q, cur ≤ q → ¬OccursAt s needle q
  | [], s, cur, hs, h, q, hq, hocc => by
    have hn : needle ≠ [] := by simpa [strstrFrom] using h
    have : s.drop q = [] := List.drop_eq_nil_of_le (by
      have := congrArg List.length hs; simp at this; omega)
    rw [OccursAt, this] at hocc
    exact hn (List.prefix_nil.mp hocc)
  | c :: rest, s, cur, hs, h, q, hq, hocc => by
    unfold strstrFrom at h
    split_ifs at h with hp
    rcases Nat.eq_or_lt_of_le hq with rfl | hq
    · rw [OccursAt, hs] at hocc
      exact hp hocc
    · exact strstrFrom_eq_none needle rest s (cur + 1) (drop_succ_of_drop_eq_cons hs) h q hq hocc

/-- `strstr` returns the first occurrence at or after `cur`. -/
theorem strstr_eq_some {s needle : List Char} {cur p : ℕ} (h : strstr s needle cur = some p) :
    cur ≤ p ∧ OccursAt s needle p ∧ ∀ q, cur ≤ q → q < p → ¬OccursAt s needle q :=
  strstrFrom_eq_some needle _ s cur p rfl h

/-- `strstr` returns `NULL` only when there is no occurrence at or after `cur`. -/
theorem strstr_eq_none {s needle : List Char} {cur : ℕ} (h : strstr s needle cur = none) :
    ∀ q, cur ≤ q → ¬OccursAt s needle q :=
  strstrFrom_eq_none needle _ s cur rfl h

/-! ### The loop -/

section Loop

variable {s e : List Char}

/-- Inside an occurrence, `s` reads the characters of the needle. -/
theorem charAt_mem_of_occursAt {p k : ℕ} (h : OccursAt s e p) (hk : k < e.length) :
    charAt s (p + k) ∈ e := by
  obtain ⟨r, hr⟩ := h
  have : s[p + k]? = some e[k] := by
    rw [← List.getElem?_drop, ← hr, List.getElem?_append_left hk, List.getElem?_eq_getElem hk]
  simpa only [charAt, this, Option.getD_some] using List.getElem_mem hk

theorem occursAt_add_length_le {p : ℕ} (h : OccursAt s e p) (he : e ≠ []) :
    p + e.length ≤ s.length := by
  have h1 := h.length_le
  have h2 := List.length_pos.mpr he
  rw [List.length_drop] at h1
  omega

/-- No word starts strictly inside an occurrence of a needle without spaces: the character
before the start would be one of the needle's. -/
theorem not_wordAt_inside {p q : ℕ} (hocc : OccursAt s e p) (hsp : ' ' ∉ e) (h1 : p < q)
    (h2 : q < p + e.length) : ¬WordAt s e q := by
  rintro ⟨-, hl | hl, -⟩
  · omega
  · have := charAt_mem_of_occursAt hocc (by omega : q - 1 - p < e.length)
    rw [show p + (q - 1 - p) = q - 1 by omega, hl] at this
    exact hsp this

/-- The loop invariant: from a `cur` before which no word occurrence starts, the loop
returns, and returns whether there is one, as long as the fuel outlasts the string. -/
theorem checkLoop_spec (he : e ≠ []) (hsp : ' ' ∉ e) :
    ∀ fuel cur, cur ≤ s.length → s.length < cur + fuel → (∀ p < cur, ¬WordAt s e p) →
      ∃ b, checkLoop s e fuel cur = some b ∧ (b = true ↔ ∃ p, WordAt s e p)
  | 0, cur, _, hfuel, _ => absurd hfuel (by omega)
  | fuel + 1, cur, _, hfuel, hinv => by
    rw [checkLoop]
    cases hs : strstr s e cur with
    | none =>
      refine ⟨false, rfl, iff_of_false Bool.false_ne_true ?_⟩
      rintro ⟨p, hp⟩
      rcases lt_or_le p cur with h | h
      · exact hinv p h hp
      · exact strstr_eq_none hs p h hp.1
    | some p =>
      obtain ⟨hle, hocc, hmin⟩ := strstr_eq_some hs
      dsimp only
      split_ifs with hw
      · exact ⟨true, rfl, iff_of_true rfl ⟨p, hocc, hw⟩⟩
      · have hlen := List.length_pos.mpr he
        refine checkLoop_spec he hsp fuel (p + e.length) (occursAt_add_length_le hocc he)
          (by omega) fun q hq hwq => ?_
        rcases lt_or_le q cur with h | h
        · exact hinv q h hwq
        rcases lt_trichotomy q p with h' | rfl | h'
        · exact hmin q h h' hwq.1
        · exact hw hwq.2
        · exact not_wordAt_inside hocc hsp h' hq hwq

end Loop

/-! ### Words -/

/-- `ext` occurs in `s` between the start or a space and the end or a space, said without
indices. -/
def IsWord (s ext : List Char) : Prop :=
  ∃ a b, s = a ++ ext ++ b ∧ (a = [] ∨ ∃ a', a = a' ++ [' ']) ∧ (b = [] ∨ ∃ b', b = ' ' :: b')

section Words

variable {s e : List Char}

/-- The left boundary test at `i`, on the text before `i`. -/
theorem left_boundary_iff {i : ℕ} (hi : i ≤ s.length) :
    (i = 0 ∨ charAt s (i - 1) = ' ') ↔ (s.take i = [] ∨ ∃ a, s.take i = a ++ [' ']) := by
  cases i with
  | zero => simp
  | succ k =>
    have hk : s[k]? = some s[k] := List.getElem?_eq_getElem (by omega)
    simp only [charAt, hk, Option.getD_some, List.take_succ, Option.toList_some,
      List.append_eq_nil, List.cons_ne_nil, and_false, false_or, Nat.add_one_ne_zero,
      Nat.add_sub_cancel]
    exact ⟨fun h => ⟨s.take k, by rw [h]⟩, fun ⟨a, ha⟩ => by simpa using (List.append_inj' ha rfl).2⟩

/-- The right boundary test at `i`, on the text from `i` on. -/
theorem right_boundary_iff (hnul : '\x00' ∉ s) (i : ℕ) :
    (charAt s i = '\x00' ∨ charAt s i = ' ') ↔ (s.drop i = [] ∨ ∃ b, s.drop i = ' ' :: b) := by
  rcases lt_or_le i s.length with hi | hi
  · have hc : s[i] ≠ '\x00' := fun h => hnul (h ▸ List.getElem_mem hi)
    rw [charAt, List.getElem?_eq_getElem hi, List.drop_eq_getElem_cons hi]
    simp only [Option.getD_some, hc, false_or, List.cons_ne_nil, List.cons.injEq,
      exists_and_left, exists_eq', and_true]
  · simp [charAt, List.getElem?_eq_none hi, List.drop_eq_nil_of_le hi]

/-- The boundary tests of `gl_check_extension` say what `IsWord` says. -/
theorem exists_wordAt_iff_isWord (hnul : '\x00' ∉ s) (he : e ≠ []) :
    (∃ p, WordAt s e p) ↔ IsWord s e := by
  constructor
  · rintro ⟨p, hocc, hl, hr⟩
    have hfit := occursAt_add_length_le hocc he
    obtain ⟨r, hr'⟩ := hocc
    have hdrop : s.drop (p + e.length) = r := by
      rw [← List.drop_drop, ← hr', List.drop_left]
    refine ⟨s.take p, r, ?_, (left_boundary_iff (by omega)).1 hl,
      hdrop ▸ (right_boundary_iff hnul _).1 hr⟩
    rw [List.append_assoc, hr', List.take_append_drop]
  · rintro ⟨a, b, rfl, hl, hr⟩
    refine ⟨a.length, ?_, (left_boundary_iff (by simp)).2 ?_, (right_boundary_iff hnul _).2 ?_⟩
    · rw [OccursAt, List.append_assoc, List.drop_left]
      exact List.prefix_append _ _
    · rwa [List.append_assoc, List.take_left]
    · rwa [List.drop_left' (by simp)]

theorem exists_first_space : ∀ {s : List Char}, ' ' ∈ s → ∃ u v, s = u ++ ' ' :: v ∧ ' ' ∉ u
  | c :: s, h => by
    by_cases hc : c = ' '
    · exact ⟨[], s, by simp [hc], by simp⟩
    · obtain ⟨u, v, rfl, hu⟩ := exists_first_space ((List.mem_cons.mp h).resolve_left (Ne.symm hc))
      exact ⟨c :: u, v, rfl, by simp [hu, Ne.symm hc]⟩

theorem isWord_of_space_free (hs : ' ' ∉ s) : IsWord s e ↔ e = s := by
  constructor
  · rintro ⟨a, b, rfl, ha | ⟨a', rfl⟩, hb | ⟨b', rfl⟩⟩ <;> simp_all
  · rintro rfl
    exact ⟨[], [], by simp, .inl rfl, .inl rfl⟩

/-- A word of `u ++ ' ' :: v`, with no space in `u`, is `u` or a word of `v`. -/
theorem isWord_first_space {u v : List Char} (hsp : ' ' ∉ e) (hu : ' ' ∉ u) :
    IsWord (u ++ ' ' :: v) e ↔ e = u ∨ IsWord v e := by
  constructor
  · rintro ⟨a, b, h, ha, hb⟩
    rw [List.append_assoc, List.append_eq_append_iff] at h
    rcases h with ⟨_ | ⟨c, a'⟩, rfl, h⟩ | ⟨c', rfl, h⟩
    · left
      cases e with
      | nil => rcases ha with ha | ⟨a', ha⟩ <;> simp_all
      | cons x e' => simp_all
    · simp only [List.cons_append, List.cons.injEq] at h
      obtain ⟨rfl, rfl⟩ := h
      refine .inr ⟨a', b, by simp, ?_, hb⟩
      rcases List.eq_nil_or_concat a' with rfl | ⟨L, x, rfl⟩
      · exact .inl rfl
      · rcases ha with ha | ⟨a0, ha⟩
        · simp at ha
        · have ha' : (u ++ ' ' :: L) ++ [x] = a0 ++ [' '] := by simpa using ha
          have hx : x = ' ' := by simpa using (List.append_inj' ha' rfl).2
          exact .inr ⟨L, by rw [hx, List.concat_eq_append]⟩
    · left
      obtain rfl : a = [] := by rcases ha with ha | ⟨a', rfl⟩ <;> simp_all
      rw [List.append_eq_append_iff] at h
      rcases h with ⟨_ | ⟨x, d⟩, rfl, rfl⟩ | ⟨_ | ⟨x, d⟩, rfl, h⟩ <;> simp_all
  · rintro (rfl | ⟨a, b, rfl, ha, hb⟩)
    · exact ⟨[], ' ' :: v, by simp, .inl rfl, .inr ⟨v, rfl⟩⟩
    · refine ⟨u ++ ' ' :: a, b, by simp, .inr ?_, hb⟩
      rcases ha with rfl | ⟨a', rfl⟩
      · exact ⟨u, by simp⟩
      · exact ⟨u ++ ' ' :: a', by simp⟩

/-- The words of `s` split at every space are the `IsWord` occurrences. -/
theorem mem_splitOn_iff_isWord (hsp : ' ' ∉ e) (s : List Char) :
    e ∈ s.splitOn ' ' ↔ IsWord s e := by
  by_cases hs : ' ' ∈ s
  · obtain ⟨u, v, hsv, hu⟩ := exists_first_space hs
    have hsplit : s.splitOn ' ' = u :: v.splitOn ' ' := hsv ▸
      List.splitOnP_first _ u (fun x hx => by simpa using ne_of_mem_of_not_mem hx hu) ' '
        (by simp) v
    rw [hsplit, List.mem_cons, mem_splitOn_iff_isWord hsp v, hsv, isWord_first_space hsp hu]
  · have hsplit : s.splitOn ' ' = [s] :=
      List.splitOnP_eq_single _ s fun x hx => by simpa using ne_of_mem_of_not_mem hx hs
    rw [hsplit, List.mem_singleton, isWord_of_space_free hs]
termination_by s.length
decreasing_by simp_wf; simp only [hsv, List.length_append, List.length_cons]; omega

end Words

/-! ### `gl_check_extension` -/

/-- For a non-empty `ext` without spaces `gl_check_extension` returns, and returns whether
`ext` is one of the words of `extensions` split at every space (empty words included);
these are exactly the occurrences of `ext` after the start or a space and before the end
or a space. -/
theorem glCheckExtension_eq (extensions ext : CStr) (hne : ext.chars ≠ [])
    (hsp : ' ' ∉ ext.chars) :
    glCheckExtension extensions ext = some (decide (ext.chars ∈ extensions.chars.splitOn ' ')) ∧
      (ext.chars ∈ extensions.chars.splitOn ' ' ↔ ∃ p, WordAt extensions.chars ext.chars p) := by
  have hwords : ext.chars ∈ extensions.chars.splitOn ' ' ↔ ∃ p, WordAt extensions.chars ext.chars p :=
    (mem_splitOn_iff_isWord hsp _).trans (exists_wordAt_iff_isWord extensions.nul_free hne).symm
  obtain ⟨b, hb, hiff⟩ :=
    checkLoop_spec hne hsp (extensions.chars.length + 1) 0 (Nat.zero_le extensions.chars.length)
    (by omega) fun _ h => absurd h (Nat.not_lt_zero _)
  refine ⟨?_, hwords⟩
  rw [glCheckExtension, hb]
  exact congrArg some (Bool.eq_iff_iff.mpr (by rw [hiff, decide_eq_true_iff, hwords]))

/-- `GL_ARB_sync` is found in `"GL_ARB_sync_x GL_ARB_sync"` past its first, rejected,
occurrence. -/
theorem glCheckExtension_finds_later_word :
    glCheckExtension ⟨"GL_ARB_sync_x GL_ARB_sync".toList, by decide⟩
      ⟨"GL_ARB_sync".toList, by decide⟩ = some true := by
  rw [(glCheckExtension_eq _ _ (by decide) (by decide)).1]
  decide

/-- With an empty `ext` on a string that starts with a letter, the C loop never returns:
`strstr` finds the empty string at the start, the test fails and `cur += 0`. -/
theorem checkLoop_empty_spins (c : Char) (s : List Char) (hnul : '\x00' ∉ c :: s)
    (hc : c ≠ ' ') : ∀ fuel, checkLoop (c :: s) [] fuel 0 = none
  | 0 => rfl
  | fuel + 1 => by
    have hc0 : c ≠ '\x00' := fun h => hnul (h ▸ List.mem_cons_self c s)
    simpa [checkLoop, strstr, strstrFrom, charAt, hc, hc0] using
      checkLoop_empty_spins c s hnul hc fuel

end Mpv

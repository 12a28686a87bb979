-- The version of the PostgreSQL server, as Pgversion of child.c reads it from
-- the string SELECT version() returns, on a miss of its cache: the number
-- after the first space, up to a dot, times ten, and before release 10 the
-- number after the dot added; then the minor number. Each part is copied
-- into a buffer of ten bytes, up to a dot (for the later parts also a space)
-- or nine characters, and read with atoi. The laws:
--   * the version strings servers write are read back: "W M.m ..." from
--     release 10 on as major 10 M, "W M.s.m ..." before as 10 M + s, each
--     with its minor m;
--   * the copy loops stop at a dot, a space or a full buffer and never at the
--     end of the string: a version string that ends with its minor number is
--     read past its terminating NUL.
import Mathlib.Data.Nat.Digits
import Pgpool.Protocol.StartupPacket
import Pgpool.Protocol.LoadBalance

namespace pgpool.protocol

/-! ## The pure model -/

/-- `VERSION_BUF_SIZE` -/
def versionBufSize : Nat := 10

/-- A checked read `*p` of a C string at index `i`: its characters, the
terminating NUL at its length, a fault past it. -/
def charAt (s : List Char) (i : Nat) : Except Fault Char :=
  if h : i < s.length then .ok s[i] else if i = s.length then .ok '\x00' else .error (.outOfBounds i)

/-- The copy loop `while (i < VERSION_BUF_SIZE - 1 && p && *p != ...) buf[i++] = *p++;`
from index `p` with room for `n` more characters: the characters copied and
the index where `p` stops. The pointer is never NULL. -/
def copyVersionPart (stop : Char → Bool) (s : List Char) : Nat → Nat → Except Fault (List Char × Nat)
  | 0, p => .ok ([], p)
  | n + 1, p => (charAt s p).bind fun c =>
    if stop c then .ok ([], p) else (copyVersionPart stop s n (p + 1)).map fun r => (c :: r.1, r.2)

/-- The test of the loop over the major number: `*p != '.'`. -/
def isDot (c : Char) : Bool := c = '.'

/-- The test of the later loops: `*p != '.' && *p != ' '`. -/
def isDotOrSpace (c : Char) : Bool := c = '.' || c = ' '

/-- How `Pgversion` ends once it has the version string: with the major and
minor numbers, or with `ereport(FATAL)` and its message. -/
inductive PgVersionRead
  | version (major minor : Int)
  | fatal (msg : String)
  deriving DecidableEq, Repr

/-- "Extract minor version", from index `p`: the character there is skipped. -/
def extractMinor (result : List Char) (major : Int) (p : Nat) : Except Fault PgVersionRead :=
  (copyVersionPart isDotOrSpace result (versionBufSize - 1) (p + 1)).map fun r =>
    let minor := atoi (String.mk r.1)
    if minor < 0 ∨ minor > 100 then .fatal ("Pgversion: wrong minor version: " ++ toString minor)
    else .version major minor

/-- `Pgversion` on a miss of its cache, from the version string `result` the
relation cache gives. -/
def pgversion (result : List Char) : Except Fault PgVersionRead :=
  match result.indexOf? ' ' with
  | none => .ok (.fatal ("Pgversion: unable to find the first space in the version string: " ++ String.mk result))
  | some sp =>
    (copyVersionPart isDot result (versionBufSize - 1) (sp + 1)).bind fun r =>
    let major := atoi (String.mk r.1)
    if major < 6 ∨ major > 100 then .ok (.fatal ("Pgversion: wrong major version: " ++ toString major))
    else if major ≥ 10 then extractMinor result (major * 10) r.2
    else (copyVersionPart isDotOrSpace result (versionBufSize - 1) (r.2 + 1)).bind fun q =>
      extractMinor result (major * 10 + atoi (String.mk q.1)) q.2

/-! ## The version strings servers write -/

/-- A release as `version()` names it: the major number, for a release
before 10 the second number, and the minor number. -/
structure Release where
  major : Nat
  sub : Nat
  minor : Nat
  deriving DecidableEq, Repr

/-- What is written of a release before its minor number: `M.` from release
10 on, `M.s.` before. -/
def Release.head (r : Release) : List Char :=
  if 10 ≤ r.major then Nat.toDigits 10 r.major ++ ['.']
  else Nat.toDigits 10 r.major ++ '.' :: Nat.toDigits 10 r.sub ++ ['.']

/-- The release's numbers as written: `M.m` from release 10 on, `M.s.m`
before. -/
def Release.text (r : Release) : List Char := r.head ++ Nat.toDigits 10 r.minor

/-- The major number of a release as one number: ten times the first number,
plus the second before release 10. -/
def Release.number (r : Release) : Int := if 10 ≤ r.major then 10 * r.major else 10 * r.major + r.sub

/-- The releases a version string can name so that every part fits the
buffer. -/
structure Release.Fits (r : Release) : Prop where
  major : 6 ≤ r.major ∧ r.major ≤ 100
  sub : r.major < 10 → r.sub < 10 ^ 9
  minor : r.minor ≤ 100

/-! ## Digits -/

theorem digitChar_spec {d : Nat} (h : d < 10) : (Nat.digitChar d).isDigit ∧ (Nat.digitChar d).toNat = 48 + d := by
  interval_cases d <;> decide

theorem isDigit_of_mem_toDigitsCore {c : Char} :
    ∀ {f n : Nat} {ds : List Char}, c ∈ Nat.toDigitsCore 10 f n ds → c ∈ ds ∨ c.isDigit
  | 0, _, _, h => .inl h
  | f + 1, n, ds, h => by
    have hd := (digitChar_spec (Nat.mod_lt n (by decide : 10 > 0))).1
    unfold Nat.toDigitsCore at h
    dsimp only at h
    split_ifs at h
    · rcases List.mem_cons.1 h with rfl | h
      exacts [.inr hd, .inl h]
    · rcases isDigit_of_mem_toDigitsCore h with h | h
      · rcases List.mem_cons.1 h with rfl | h
        exacts [.inr hd, .inl h]
      · exact .inr h

theorem isDigit_of_mem_toDigits {c : Char} {n : Nat} (h : c ∈ Nat.toDigits 10 n) : c.isDigit :=
  (isDigit_of_mem_toDigitsCore h).resolve_left (List.not_mem_nil c)

theorem digitsValue_digitChar_cons {d : Nat} (h : d < 10) (acc : Nat) (ds : List Char) :
    digitsValue acc (Nat.digitChar d :: ds) = digitsValue (acc * 10 + d) ds := by
  obtain ⟨hd, hn⟩ := digitChar_spec h
  simp only [digitsValue, hd, if_true, hn, show ('0' : Char).toNat = 48 from rfl, Nat.add_sub_cancel_left]

/-- The digits of a number read back as the number; what follows them is
read on. -/
theorem digitsValue_toDigitsCore :
    ∀ (f n : Nat) (ds : List Char), n < f → digitsValue 0 (Nat.toDigitsCore 10 f n ds) = digitsValue n ds
  | 0, _, _, h => absurd h (Nat.not_lt_zero _)
  | f + 1, n, ds, h => by
    have hm := Nat.mod_lt n (by decide : 10 > 0)
    unfold Nat.toDigitsCore
    dsimp only
    split_ifs with hq
    · rw [digitsValue_digitChar_cons hm]
      congr 1
      omega
    · rw [digitsValue_toDigitsCore f (n / 10) _ (by omega), digitsValue_digitChar_cons hm, Nat.div_add_mod']

theorem atoi_of_isDigit {l : List Char} (h : ∀ c ∈ l, c.isDigit) : atoi (String.mk l) = digitsValue 0 l := by
  cases l with
  | nil => rfl
  | cons d ds => exact atoi_of_head rfl (by have := toNat_of_isDigit (h d (List.mem_cons_self d ds)); omega)

@[simp] theorem atoi_toDigits (n : Nat) : atoi (String.mk (Nat.toDigits 10 n)) = n := by
  rw [atoi_of_isDigit fun c => isDigit_of_mem_toDigits, Nat.toDigits,
    digitsValue_toDigitsCore _ _ _ (Nat.lt_succ_self n)]
  rfl

theorem length_toDigits_le {n k : Nat} (h : n < 10 ^ k) (hk : 0 < k) : (Nat.toDigits 10 n).length ≤ k :=
  Nat.toDigitsCore_length 10 (by decide) _ n k h hk

/-- No loop stops at a digit. -/
theorem stop_of_mem_toDigits {stop : Char → Bool} (hs : stop = isDot ∨ stop = isDotOrSpace) {n : Nat} :
    ∀ c ∈ Nat.toDigits 10 n, stop c = false := fun c hc => by
  have := toNat_of_isDigit (isDigit_of_mem_toDigits hc)
  have hne : ∀ e : Char, e.toNat < 48 → c ≠ e := fun e he h' => by rw [h'] at this; omega
  rcases hs with rfl | rfl
  · simpa [isDot] using hne '.' (by decide)
  · simpa [isDotOrSpace] using ⟨hne '.' (by decide), hne ' ' (by decide)⟩

/-! ## The copy loops -/

theorem charAt_append_cons (pre post : List Char) (c : Char) : charAt (pre ++ c :: post) pre.length = .ok c := by
  simp [charAt, List.getElem_append_right]

theorem copyVersionPart_of_stop {stop : Char → Bool} {s : List Char} {p : Nat} {c : Char} (h : charAt s p = .ok c)
    (hc : stop c = true) : ∀ n, copyVersionPart stop s n p = .ok ([], p)
  | 0 => rfl
  | n + 1 => by simp only [copyVersionPart, h, Except.bind, hc, if_true]

/-- The loop copies the characters it does not stop at, one by one. -/
theorem copyVersionPart_append {stop : Char → Bool} {s : List Char} (pre w post : List Char) (hs : s = pre ++ w ++ post)
    (hw : ∀ x ∈ w, stop x = false) (n : Nat) :
    copyVersionPart stop s (w.length + n) pre.length =
      (copyVersionPart stop s n (pre.length + w.length)).map fun r => (w ++ r.1, r.2) := by
  induction w generalizing pre with
  | nil =>
    simp only [List.length_nil, Nat.zero_add, Nat.add_zero, List.nil_append]
    cases copyVersionPart stop s n pre.length <;> rfl
  | cons x w ih =>
    have hx : charAt s pre.length = .ok x := by
      rw [hs, List.append_assoc, List.cons_append]
      exact charAt_append_cons _ _ _
    have ih' := ih (pre ++ [x]) (by simp [hs]) fun y hy => hw y (List.mem_cons_of_mem x hy)
    rw [List.length_append, List.length_singleton] at ih'
    rw [List.length_cons, Nat.add_right_comm, copyVersionPart, hx]
    simp only [Except.bind, hw x (List.mem_cons_self x w), Bool.false_eq_true, if_false, ih',
      show pre.length + 1 + w.length = pre.length + (w.length + 1) by omega]
    cases copyVersionPart stop s n (pre.length + (w.length + 1)) <;> rfl

/-- A word followed by a character the loop stops at, with room for the
word, is copied whole, and the loop stops at that character. -/
theorem copyVersionPart_word {stop : Char → Bool} {s : List Char} (pre w post : List Char) {c : Char} {n : Nat}
    (hs : s = pre ++ w ++ c :: post) (hw : ∀ x ∈ w, stop x = false) (hc : stop c = true) (hn : w.length ≤ n) :
    copyVersionPart stop s n pre.length = .ok (w, pre.length + w.length) := by
  obtain ⟨k, rfl⟩ : ∃ k, n = w.length + k := ⟨n - w.length, by omega⟩
  have hat : charAt s (pre.length + w.length) = .ok c := by
    rw [hs, ← List.length_append]
    exact charAt_append_cons _ _ _
  rw [copyVersionPart_append pre w (c :: post) hs hw, copyVersionPart_of_stop hat hc]
  simp [Except.map]

/-- A word at the end of the string, with room for two more characters, is
copied with the terminating NUL, and the loop then reads past the string. -/
theorem copyVersionPart_past_end {stop : Char → Bool} {s : List Char} (pre w : List Char) {n : Nat}
    (hs : s = pre ++ w) (hw : ∀ x ∈ w, stop x = false) (h0 : stop '\x00' = false) (hn : w.length + 2 ≤ n) :
    copyVersionPart stop s n pre.length = .error (.outOfBounds (s.length + 1)) := by
  obtain ⟨k, rfl⟩ : ∃ k, n = w.length + (k + 2) := ⟨n - w.length - 2, by omega⟩
  have hl : pre.length + w.length = s.length := by simp [hs]
  have hend : charAt s s.length = .ok '\x00' := by simp [charAt]
  have hpast : charAt s (s.length + 1) = .error (.outOfBounds (s.length + 1)) := by simp [charAt]
  rw [copyVersionPart_append pre w [] (by simp [hs]) hw, hl]
  simp only [copyVersionPart, hend, hpast, Except.bind, h0, Bool.false_eq_true, if_false]
  rfl

/-! ## Reading a release back -/

section
variable {word : List Char} {r : Release}

theorem indexOf_space {tail : List Char} (hw : ' ' ∉ word) : (word ++ ' ' :: tail).indexOf? ' ' = some word.length := by
  have hn : word.findIdx? (· == ' ') = none :=
    List.findIdx?_eq_none_iff.2 fun x hx => by simpa using ne_of_mem_of_not_mem hx hw
  simp [List.indexOf?, hn]

/-- Up to the minor number, a version string with a release's numbers is
read as the release's major number. -/
theorem pgversion_head {tail : List Char} (hw : ' ' ∉ word) (hr : r.Fits) :
    pgversion (word ++ ' ' :: (r.head ++ tail)) =
      extractMinor (word ++ ' ' :: (r.head ++ tail)) r.number (word.length + r.head.length) := by
  have h6 := hr.major
  have hmajor (post : List Char) (hs : r.head ++ tail = Nat.toDigits 10 r.major ++ '.' :: post) :
      copyVersionPart isDot (word ++ ' ' :: (r.head ++ tail)) 9 (word.length + 1) =
        .ok (Nat.toDigits 10 r.major, word.length + 1 + (Nat.toDigits 10 r.major).length) := by
    have h : copyVersionPart isDot (word ++ ' ' :: (r.head ++ tail)) 9 (word ++ [' ']).length = _ :=
      copyVersionPart_word (word ++ [' ']) _ post (by simp [hs]) (stop_of_mem_toDigits (.inl rfl))
      (rfl : isDot '.' = true) (length_toDigits_le (by omega : r.major < 10 ^ 9) (by decide))
    rwa [List.length_append, List.length_singleton] at h
  unfold pgversion
  rw [indexOf_space hw]
  by_cases hten : 10 ≤ r.major
  · have hh : r.head = Nat.toDigits 10 r.major ++ ['.'] := if_pos hten
    simp only [versionBufSize, Nat.reduceSub, hmajor tail (by simp [hh]), Except.bind, atoi_toDigits]
    rw [if_neg (by omega), if_pos (by omega), Release.number, if_pos hten]
    congr 1
    · omega
    · simp only [hh, List.length_append, List.length_singleton]; omega
  · have hh : r.head = Nat.toDigits 10 r.major ++ '.' :: Nat.toDigits 10 r.sub ++ ['.'] := if_neg hten
    have hsub : copyVersionPart isDotOrSpace (word ++ ' ' :: (r.head ++ tail)) 9
        (word.length + 1 + (Nat.toDigits 10 r.major).length + 1) =
        .ok (Nat.toDigits 10 r.sub,
          word.length + 1 + (Nat.toDigits 10 r.major).length + 1 + (Nat.toDigits 10 r.sub).length) := by
      have h : copyVersionPart isDotOrSpace (word ++ ' ' :: (r.head ++ tail)) 9
          (word ++ ' ' :: Nat.toDigits 10 r.major ++ ['.']).length = _ :=
        copyVersionPart_word (word ++ ' ' :: Nat.toDigits 10 r.major ++ ['.']) _ tail (by simp [hh])
        (stop_of_mem_toDigits (.inr rfl)) (rfl : isDotOrSpace '.' = true)
        (length_toDigits_le (hr.sub (by omega)) (by decide))
      rwa [show (word ++ ' ' :: Nat.toDigits 10 r.major ++ ['.']).length =
        word.length + 1 + (Nat.toDigits 10 r.major).length + 1 by simp; omega] at h
    simp only [versionBufSize, Nat.reduceSub, hmajor (Nat.toDigits 10 r.sub ++ '.' :: tail) (by simp [hh]),
      Except.bind, atoi_toDigits]
    rw [if_neg (by omega), if_neg (by omega), hsub]
    simp only [atoi_toDigits, Release.number, if_neg hten]
    congr 1
    · omega
    · simp only [hh, List.length_append, List.length_cons, List.length_singleton, List.length_nil]; omega

theorem length_minor_le (hr : r.Fits) : (Nat.toDigits 10 r.minor).length ≤ 3 :=
  length_toDigits_le (by have := hr.minor; omega) (by decide)

/-- `Pgversion` reads back every version string a server writes: a word
without a space, a space, the release's numbers, and after a space anything
at all give the release's major number and its minor number. -/
theorem pgversion_reads_release (rest : List Char) (hw : ' ' ∉ word) (hr : r.Fits) :
    pgversion (word ++ ' ' :: (r.text ++ ' ' :: rest)) = .ok (.version r.number r.minor) := by
  have h : copyVersionPart isDotOrSpace (word ++ ' ' :: (r.head ++ (Nat.toDigits 10 r.minor ++ ' ' :: rest))) 9
      (word ++ ' ' :: r.head).length = _ :=
    copyVersionPart_word (word ++ ' ' :: r.head) (Nat.toDigits 10 r.minor) rest (by simp) (stop_of_mem_toDigits (.inr rfl))
      (rfl : isDotOrSpace ' ' = true) (by have := length_minor_le hr; omega)
  rw [show (word ++ ' ' :: r.head).length = word.length + r.head.length + 1 by simp; omega] at h
  have hm := hr.minor
  rw [Release.text, List.append_assoc, pgversion_head hw hr, extractMinor]
  simp only [versionBufSize, Nat.reduceSub, h, Except.map, atoi_toDigits]
  rw [if_neg (by omega)]

theorem pgversion_reads_release_9_6_24 :
    ' ' ∉ "PostgreSQL".toList ∧ Release.Fits ⟨9, 6, 24⟩ ∧
      pgversion ("PostgreSQL".toList ++ ' ' :: ((⟨9, 6, 24⟩ : Release).text ++ ' ' :: "on x86_64-pc-linux-gnu".toList)) =
        .ok (.version (Release.number ⟨9, 6, 24⟩) 24) :=
  have hw : ' ' ∉ "PostgreSQL".toList := by decide
  have hr : Release.Fits ⟨9, 6, 24⟩ := ⟨by decide, by decide, by decide⟩
  ⟨hw, hr, pgversion_reads_release _ hw hr⟩

example : pgversion "PostgreSQL 9.6.24 on x86_64-pc-linux-gnu".toList = .ok (.version 96 24) := by decide

/-- The loop over the minor number stops only at a dot, a space or a full
buffer, never at the end of the string: a version string that ends with its
minor number is read past its terminating NUL. -/
theorem pgversion_reads_past_end (hw : ' ' ∉ word) (hr : r.Fits) :
    pgversion (word ++ ' ' :: r.text) = .error (.outOfBounds ((word ++ ' ' :: r.text).length + 1)) := by
  have h : copyVersionPart isDotOrSpace (word ++ ' ' :: (r.head ++ Nat.toDigits 10 r.minor)) 9
      (word ++ ' ' :: r.head).length = _ :=
    copyVersionPart_past_end (word ++ ' ' :: r.head) (Nat.toDigits 10 r.minor) (by simp) (stop_of_mem_toDigits (.inr rfl)) rfl
      (by have := length_minor_le hr; omega)
  rw [show (word ++ ' ' :: r.head).length = word.length + r.head.length + 1 by simp; omega] at h
  rw [Release.text, pgversion_head hw hr, extractMinor]
  simp only [versionBufSize, Nat.reduceSub, h]
  rfl

theorem pgversion_reads_past_end_13_2 :
    ' ' ∉ "PostgreSQL".toList ∧ Release.Fits ⟨13, 0, 2⟩ ∧
      pgversion ("PostgreSQL".toList ++ ' ' :: (⟨13, 0, 2⟩ : Release).text) =
        .error (.outOfBounds (("PostgreSQL".toList ++ ' ' :: (⟨13, 0, 2⟩ : Release).text).length + 1)) :=
  have hw : ' ' ∉ "PostgreSQL".toList := by decide
  have hr : Release.Fits ⟨13, 0, 2⟩ := ⟨by decide, by decide, by decide⟩
  ⟨hw, hr, pgversion_reads_past_end hw hr⟩

end

end pgpool.protocol

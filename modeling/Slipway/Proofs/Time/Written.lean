import Mathlib.Tactic.IntervalCases
import Slipway.Proofs.Text.Numbering
import Slipway.Timestamp

/-
  Times as they are written and read. Every day has a date that can be (`Calendar.valid_dateOf`),
  and a numeral with leading zeros is read as the number that it was written for
  (`Text.digitsValue?_paddedDigits`). So the text of a time is read as this time in whole seconds
  (`Timestamp.parse?_text`), a leap second included. A leap second stands at the end of a minute
  (`Timestamp.IsProper`): a value with one elsewhere has no text of its own, and is never read
  (`Timestamp.isProper_of_parse?`).
-/

namespace Slipway

namespace Calendar

/-! ## Dates -/

/-- The months of a year that begins with March have their lengths, if its last day is a leap
    day. -/
theorem le_monthLength (year : Int) {n m : Int}
    (hn : 153 * m ≤ 5 * n + 2 ∧ 5 * n + 2 < 153 * (m + 1)) (hm : 0 ≤ m ∧ m ≤ 11)
    (hlast : n ≤ 365) (hleap : n = 365 → isLeap year = true) :
    n - monthStart m + 1 ≤ monthLength year (if m < 10 then (m + 3).toNat else (m - 9).toNat) := by
  obtain ⟨hm, hm'⟩ := hm
  simp only [monthStart]
  interval_cases m
  case «11» =>
    by_cases hday : n = 365
    · simp [monthLength, hleap hday, hday]
    · simp only [monthLength]
      split_ifs <;> omega
  all_goals simp [monthLength]; omega

theorem valid_dateInYear {year n : Int} (h : 0 ≤ n ∧ n ≤ 365)
    (hleap : n = 365 → isLeap (year + 1) = true) : (dateInYear year n).Valid := by
  have hn : 153 * monthOf n ≤ 5 * n + 2 ∧ 5 * n + 2 < 153 * (monthOf n + 1) := by
    simp only [monthOf]
    omega
  have hm : 0 ≤ monthOf n ∧ monthOf n ≤ 11 := by omega
  have hd : 0 ≤ n - monthStart (monthOf n) := by
    simp only [monthStart]
    omega
  simp only [dateInYear]
  split
  next hlt =>
    have hday := le_monthLength year hn hm h.2 (by omega)
    rw [if_pos hlt] at hday
    refine ⟨?_, ?_, ?_, ?_⟩ <;> dsimp only <;> omega
  next hge =>
    have hday := le_monthLength (year + 1) hn hm h.2 hleap
    rw [if_neg hge] at hday
    refine ⟨?_, ?_, ?_, ?_⟩ <;> dsimp only <;> omega

/-- A year of 366 days is followed by the rest of a leap year. -/
theorem leap_of_last {n : Int} (h : 0 ≤ n ∧ n < 146097) (hlast : n - yearStart (yearOf n) = 365) :
    (yearOf n + 1) % 4 = 0 ∧ ((yearOf n + 1) % 100 ≠ 0 ∨ (yearOf n + 1) % 400 = 0) := by
  have hc : 0 ≤ min 3 (n / 36524) ∧ min 3 (n / 36524) ≤ 3 := by omega
  have hr : 0 ≤ n - 36524 * min 3 (n / 36524) ∧ n - 36524 * min 3 (n / 36524) ≤ 36524 ∧
      (min 3 (n / 36524) < 3 → n - 36524 * min 3 (n / 36524) < 36524) := by omega
  simp only [yearOf, yearStart] at hlast ⊢
  generalize min 3 (n / 36524) = c at *
  generalize hi : n - 36524 * c = i at *
  have hy : 0 ≤ min 3 (i % 1461 / 365) ∧ min 3 (i % 1461 / 365) ≤ 3 ∧
      (i % 1461 - 365 * min 3 (i % 1461 / 365) = 365 →
        min 3 (i % 1461 / 365) = 3 ∧ i % 1461 = 1460) := by omega
  generalize min 3 (i % 1461 / 365) = y at *
  have hq : 0 ≤ i / 1461 ∧ i / 1461 ≤ 24 := by omega
  have hi' : i = 1461 * (i / 1461) + i % 1461 := by omega
  generalize i / 1461 = q at *
  generalize i % 1461 = d at *
  have h4 : (100 * c + 4 * q + y) / 4 = 25 * c + q := by omega
  have h100 : (100 * c + 4 * q + y) / 100 = c := by omega
  rw [h4, h100] at hlast
  obtain ⟨rfl, rfl⟩ := hy.2.2 (by omega)
  omega

theorem monthLength_le (year : Int) (month : Nat) : monthLength year month ≤ 31 := by
  unfold monthLength
  split_ifs <;> omega

/-- Every day has a date. -/
theorem valid_dateOf (n : Int) : (dateOf n).Valid := by
  have h : 0 ≤ (n - eraStart) % eraDays ∧ (n - eraStart) % eraDays < 146097 := by
    simp only [eraDays]
    omega
  refine valid_dateInYear (yearStart_bounds h) fun hlast => ?_
  have hleap := leap_of_last h hlast
  simp only [isLeap, decide_eq_true_eq]
  omega

end Calendar

/-! ## Numerals -/

namespace Text

variable {c : Char} {n width : Nat}

theorem isDigit_of_mem_digits (h : c ∈ digits n) : isDigit c = true := by
  have hdigit : ∀ d, d < 10 → isDigit (digitChar d) = true := by decide
  induction n using digits.induct with
  | case1 n hn =>
    rw [digits, if_pos hn, List.mem_singleton] at h
    exact h ▸ hdigit n hn
  | case2 n hn ih =>
    rw [digits, if_neg hn, List.mem_append, List.mem_singleton] at h
    rcases h with h | rfl
    · exact ih h
    · exact hdigit _ (Nat.mod_lt _ (by decide))

theorem isDigit_of_mem_paddedDigits (h : c ∈ paddedDigits width n) : isDigit c = true := by
  rcases List.mem_append.1 h with h | h
  · rw [List.eq_of_mem_replicate h]
    decide
  · exact isDigit_of_mem_digits h

theorem digitsFrom?_zeros (k : Nat) (cs : List Char) :
    digitsFrom? 0 (List.replicate k '0' ++ cs) = digitsFrom? 0 cs := by
  induction k with
  | zero => rfl
  | succ k ih => exact ih

theorem paddedDigits_ne_nil (width n : Nat) : paddedDigits width n ≠ [] := by
  simp [paddedDigits, digits_ne_nil]

theorem digitsValue?_paddedDigits (width n : Nat) :
    digitsValue? (paddedDigits width n) = some n := by
  have hvalue : ∀ cs : List Char, cs ≠ [] → digitsValue? cs = digitsFrom? 0 cs := by
    intro cs hcs
    cases cs with
    | nil => exact absurd rfl hcs
    | cons c cs => rfl
  rw [hvalue _ (paddedDigits_ne_nil width n), paddedDigits, digitsFrom?_zeros, digitsFrom?_digits]

theorem length_paddedDigits (hwidth : 1 ≤ width) (h : n < 10 ^ width) :
    (paddedDigits width n).length = width := by
  have hlength := length_digits_le hwidth h
  simp only [paddedDigits, List.length_append, List.length_replicate]
  omega

theorem digitValue?_lt {d : Nat} (h : digitValue? c = some d) : d < 10 := by
  unfold digitValue? at h
  split at h
  next hc =>
    have hrange : 48 ≤ c.toNat ∧ c.toNat ≤ 57 := by
      simpa [Char.le_def, UInt32.le_iff_toNat_le] using hc
    cases h
    omega
  next => cases h

theorem digitsFrom?_lt {acc : Nat} {cs : List Char} (h : digitsFrom? acc cs = some n) :
    n < (acc + 1) * 10 ^ cs.length := by
  induction cs generalizing acc with
  | nil =>
    cases h
    simp
  | cons c cs ih =>
    obtain ⟨d, hd, h⟩ := Option.bind_eq_some_iff.1 h
    have hlt := digitValue?_lt hd
    have hstep : acc * 10 + d + 1 ≤ (acc + 1) * 10 := by omega
    calc n < (acc * 10 + d + 1) * 10 ^ cs.length := ih h
      _ ≤ (acc + 1) * 10 * 10 ^ cs.length := Nat.mul_le_mul_right _ hstep
      _ = (acc + 1) * 10 ^ (c :: cs).length := by
        rw [List.length_cons, Nat.pow_succ, Nat.mul_assoc, Nat.mul_comm 10]

theorem digitsValue?_lt {cs : List Char} (h : digitsValue? cs = some n) : n < 10 ^ cs.length := by
  cases cs with
  | nil => cases h
  | cons c cs =>
    have hlt := digitsFrom?_lt h
    omega

end Text

namespace Timestamp

/-! ## Reading numbers -/

variable {most least n width : Nat} {c : Char} {cs rest ds : List Char}

theorem skipBlanks_eq_self (h : ∀ c ∈ cs.head?, Text.isBlank c = false) : skipBlanks cs = cs := by
  cases cs with
  | nil => rfl
  | cons c cs => exact List.dropWhile_cons_of_neg (Bool.eq_false_iff.1 (h c rfl))

theorem isBlank_of_isDigit (h : Text.isDigit c = true) : Text.isBlank c = false := by
  have hrange : 48 ≤ c.toNat ∧ c.toNat ≤ 57 := by
    simpa [Text.isDigit, Char.le_def, UInt32.le_iff_toNat_le] using h
  simp only [Text.isBlank, Bool.or_eq_false_iff, Bool.and_eq_false_iff, decide_eq_false_iff_not,
    beq_eq_false_iff_ne]
  omega

/-- The digits of a number are read up to their end, if it is seen there: as many as may be are
    read, or what follows is no digit. -/
theorem number?_append (hds : ∀ c ∈ ds, Text.isDigit c = true)
    (hvalue : Text.digitsValue? ds = some n) (hle : ds.length ≤ most)
    (hend : ds.length = most ∨ ∀ c ∈ rest.head?, Text.isDigit c = false) :
    number? most (ds ++ rest) = some (n, rest) := by
  have htake : ((ds ++ rest).take most).takeWhile Text.isDigit = ds := by
    have hstop : (rest.take (most - ds.length)).takeWhile Text.isDigit = [] := by
      rcases hend with hend | hend
      · simp [hend]
      · cases rest with
        | nil => simp
        | cons c rest =>
          have hc := hend c rfl
          cases most - ds.length <;> simp [hc]
    rw [List.take_append, List.take_of_length_le hle, List.takeWhile_append_of_pos hds, hstop,
      List.append_nil]
  simp [number?, htake, hvalue]

theorem number?_paddedDigits (hwidth : 1 ≤ width) (h : n < 10 ^ width) (rest : List Char) :
    number? width (Text.paddedDigits width n ++ rest) = some (n, rest) := by
  have hlength := Text.length_paddedDigits hwidth h
  exact number?_append (fun _ => Text.isDigit_of_mem_paddedDigits)
    (Text.digitsValue?_paddedDigits width n) hlength.le (.inl hlength)

theorem head?_paddedDigits (width n : Nat) (rest : List Char) :
    ∀ c ∈ (Text.paddedDigits width n ++ rest).head?, Text.isDigit c = true := by
  intro c hc
  rw [List.head?_append_of_ne_nil _ (Text.paddedDigits_ne_nil width n)] at hc
  exact Text.isDigit_of_mem_paddedDigits (List.mem_of_head? hc)

theorem skipBlanks_paddedDigits (width n : Nat) (rest : List Char) :
    skipBlanks (Text.paddedDigits width n ++ rest) = Text.paddedDigits width n ++ rest :=
  skipBlanks_eq_self fun c hc => isBlank_of_isDigit (head?_paddedDigits width n rest c hc)

@[simp] theorem after?_cons (hc : Text.isBlank c = false) (cs : List Char) :
    after? c (c :: cs) = some cs := by
  have hskip : skipBlanks (c :: cs) = c :: cs := skipBlanks_eq_self fun d hd => by
    cases hd
    exact hc
  rw [after?, hskip]
  exact if_pos rfl

theorem numberBetween?_paddedDigits (h : n < 100) (hn : least ≤ n ∧ n ≤ most) (rest : List Char) :
    numberBetween? least most (Text.paddedDigits 2 n ++ rest) = some (n, rest) := by
  rw [numberBetween?, skipBlanks_paddedDigits, number?_paddedDigits (by decide) h]
  exact if_pos hn

theorem year?_yearText (year : Int) (rest : List Char) :
    year? (yearText year ++ '-' :: rest) = some (year, '-' :: rest) := by
  have hdash : ∀ c ∈ ('-' :: rest).head?, Text.isDigit c = false := by
    intro c hc
    cases hc
    decide
  have hsigned : number? (Text.paddedDigits 4 year.natAbs ++ '-' :: rest).length
      (Text.paddedDigits 4 year.natAbs ++ '-' :: rest) = some (year.natAbs, '-' :: rest) :=
    number?_append (fun _ => Text.isDigit_of_mem_paddedDigits)
      (Text.digitsValue?_paddedDigits 4 year.natAbs) (by simp) (.inr hdash)
  have hsign : ∀ {c : Char}, Text.isBlank c = false →
      skipBlanks (c :: (Text.paddedDigits 4 year.natAbs ++ '-' :: rest)) =
        c :: (Text.paddedDigits 4 year.natAbs ++ '-' :: rest) := by
    intro c hc
    refine skipBlanks_eq_self fun d hd => ?_
    cases hd
    exact hc
  by_cases hfour : 0 ≤ year ∧ year ≤ 9999
  · have hdigit := head?_paddedDigits 4 year.toNat ('-' :: rest)
    have hnumber : number? 4 (Text.paddedDigits 4 year.toNat ++ '-' :: rest) =
        some (year.toNat, '-' :: rest) := number?_paddedDigits (by decide) (by omega) _
    have hyear : ((year.toNat : Nat) : Int) = year := by omega
    rw [yearText, if_pos hfour, year?, skipBlanks_paddedDigits]
    -- a digit is no sign
    split
    next hminus =>
      rw [hminus] at hdigit
      exact absurd (hdigit '-' rfl) (by decide)
    next hplus =>
      rw [hplus] at hdigit
      exact absurd (hdigit '+' rfl) (by decide)
    next => simp [hnumber, hyear]
  · rw [yearText, if_neg hfour, year?, List.cons_append]
    by_cases hneg : year < 0
    · have hyear : -((year.natAbs : Nat) : Int) = year := by omega
      rw [if_pos hneg, hsign (by decide)]
      simp only [hsigned, Option.map_some, hyear]
    · have hyear : ((year.natAbs : Nat) : Int) = year := by omega
      rw [if_neg hneg, hsign (by decide)]
      simp only [hsigned, Option.map_some, hyear]

/-! ## Reading what was written -/

/-- A time that can be: what goes on beyond a second is a leap second at the end of a minute. -/
def IsProper (t : Timestamp) : Prop :=
  t.nanos < 1000000000 ∨ t.nanos < 2000000000 ∧ t.seconds % 60 = 59

/-- A time without a fraction of a second, or such a leap second. -/
def IsWhole (t : Timestamp) : Prop :=
  t.nanos = 0 ∨ t.nanos = 1000000000 ∧ t.seconds % 60 = 59

variable {t : Timestamp} {s : String}

theorem IsWhole.isProper (h : t.IsWhole) : t.IsProper := by
  rcases h with h | ⟨h, hlast⟩
  · exact .inl (by omega)
  · exact .inr ⟨by omega, hlast⟩

theorem IsWhole.wholeSeconds_eq (h : t.IsWhole) : t.wholeSeconds = t := by
  obtain ⟨seconds, nanos, hrange⟩ := t
  rcases h with h | ⟨h, -⟩ <;> dsimp only at h <;> subst h <;> rfl

theorem text_wholeSeconds (h : t.IsProper) : t.wholeSeconds.text = t.text := by
  have hleap : t.wholeSeconds.nanos / 1000000000 = t.nanos / 1000000000 := by
    unfold wholeSeconds
    rcases h with h | h <;> split <;> dsimp only <;> omega
  have hseconds : t.wholeSeconds.seconds = t.seconds := by
    unfold wholeSeconds
    split <;> rfl
  simp only [text, hleap, hseconds]

theorem toList_text (t : Timestamp) :
    let date := Calendar.dateOf (t.seconds / daySeconds)
    let time := (t.seconds % daySeconds).toNat
    let two := Text.paddedDigits 2
    t.text.toList = yearText date.year ++ '-' :: (two date.month ++ '-' :: (two date.day ++
      'T' :: (two (time / 3600) ++ ':' :: (two (time / 60 % 60) ++
        ':' :: (two (time % 60 + t.nanos / 1000000000) ++ ['Z']))))) := by
  simp [text]

theorem wholeSeconds_eq_mk (t : Timestamp) : t.wholeSeconds =
    ⟨t.seconds, if 1000000000 ≤ t.nanos then 1000000000 else 0, t.inRange⟩ := by
  unfold wholeSeconds
  split <;> rfl

/-- The time of the day, with a second more where there is a leap second. -/
theorem IsProper.timeOfDay (h : t.IsProper) :
    let time := (t.seconds % daySeconds).toNat
    let second := time % 60 + t.nanos / 1000000000
    t.seconds / daySeconds * daySeconds + time = t.seconds ∧ time < 86400 ∧ second ≤ 60 ∧
      min second 59 = time % 60 ∧ (second = 60 ↔ 1000000000 ≤ t.nanos) := by
  have hlast : (t.seconds % daySeconds).toNat % 60 = (t.seconds % 60).toNat := by
    simp only [daySeconds]
    omega
  have hsplit : t.seconds / daySeconds * daySeconds + (t.seconds % daySeconds).toNat = t.seconds ∧
      (t.seconds % daySeconds).toNat < 86400 := by
    simp only [daySeconds]
    omega
  refine ⟨hsplit.1, hsplit.2, ?_⟩
  rw [hlast]
  rcases h with h | h <;> omega

theorem parse?_text (h : t.IsProper) : parse? t.text = some t.wholeSeconds := by
  have hlist := toList_text t
  dsimp only at hlist
  have hvalid := Calendar.valid_dateOf (t.seconds / daySeconds)
  have hdays := Calendar.daysOf_dateOf (t.seconds / daySeconds)
  generalize Calendar.dateOf (t.seconds / daySeconds) = date at *
  obtain ⟨hmonth, hmonth', hday, hday'⟩ := hvalid
  have hlength := Calendar.monthLength_le date.year date.month
  obtain ⟨hseconds, htime, hlast, hsecond, hleap⟩ := h.timeOfDay
  generalize (t.seconds % daySeconds).toNat = time at *
  generalize t.nanos / 1000000000 = leap at *
  -- each part is read off the text, from the first to the last
  have hdash : ∀ cs, after? '-' ('-' :: cs) = some cs := after?_cons (by decide)
  have hcolon : ∀ cs, after? ':' (':' :: cs) = some cs := after?_cons (by decide)
  have hfraction : fraction? ['Z'] = some (0, ['Z']) := by rfl
  have hzone : zone? (skipBlanks ['Z']) = some (0, []) := by decide
  unfold parse?
  rw [hlist]
  refine Option.bind_eq_some_iff.2 ⟨_, year?_yearText _ _, ?_⟩
  refine Option.bind_eq_some_iff.2 ⟨_, hdash _, ?_⟩
  refine Option.bind_eq_some_iff.2 ⟨_, numberBetween?_paddedDigits (by omega) (by omega) _, ?_⟩
  refine Option.bind_eq_some_iff.2 ⟨_, hdash _, ?_⟩
  refine Option.bind_eq_some_iff.2 ⟨_, numberBetween?_paddedDigits (by omega) (by omega) _, ?_⟩
  refine Option.bind_eq_some_iff.2 ⟨_, numberBetween?_paddedDigits (by omega) (by omega) _, ?_⟩
  refine Option.bind_eq_some_iff.2 ⟨_, hcolon _, ?_⟩
  refine Option.bind_eq_some_iff.2 ⟨_, numberBetween?_paddedDigits (by omega) (by omega) _, ?_⟩
  refine Option.bind_eq_some_iff.2 ⟨_, hcolon _, ?_⟩
  refine Option.bind_eq_some_iff.2 ⟨_, numberBetween?_paddedDigits (by omega) (by omega) _, ?_⟩
  refine Option.bind_eq_some_iff.2 ⟨_, hfraction, ?_⟩
  refine Option.bind_eq_some_iff.2 ⟨_, hzone, ?_⟩
  dsimp only
  have hwall : Calendar.daysOf ⟨date.year, date.month, date.day⟩ * daySeconds +
      ((time / 3600 * 3600 + time / 60 % 60 * 60 + min (time % 60 + leap) 59 : Nat) : Int) =
        t.seconds := by
    have htotal : time / 3600 * 3600 + time / 60 % 60 * 60 + time % 60 = time := by omega
    rw [hdays, hsecond, htotal]
    exact hseconds
  have hnanos : (if time % 60 + leap = 60 then 0 + 1000000000 else 0) =
      if 1000000000 ≤ t.nanos then 1000000000 else 0 := by
    simp only [hleap, Nat.zero_add]
  have hof : ∀ nanos, ofSeconds? t.seconds nanos = some ⟨t.seconds, nanos, t.inRange⟩ :=
    fun nanos => dif_pos t.inRange
  rw [hwall, hnanos, wholeSeconds_eq_mk]
  refine Option.bind_eq_some_iff.2 ⟨_, hof _, ?_⟩
  rw [if_pos ⟨⟨hmonth, hmonth', hday, hday'⟩, rfl⟩, Int.sub_zero]
  exact hof _

/-! ## What is read -/

theorem fraction?_lt (h : fraction? cs = some (n, rest)) : n < 1000000000 := by
  unfold fraction? at h
  split at h
  next cs =>
    dsimp only at h
    obtain ⟨v, hv, h⟩ := Option.map_eq_some_iff.1 h
    cases h
    have hlt := Text.digitsValue?_lt hv
    have hle : ((cs.take 9).takeWhile Text.isDigit).length ≤ 9 :=
      (List.takeWhile_sublist _).length_le.trans (List.length_take_le _ _)
    generalize ((cs.take 9).takeWhile Text.isDigit).length = k at *
    calc v * 10 ^ (9 - k) < 10 ^ k * 10 ^ (9 - k) :=
          Nat.mul_lt_mul_of_pos_right hlt (Nat.pow_pos (by decide))
      _ = 10 ^ 9 := by rw [← Nat.pow_add, Nat.add_sub_cancel' hle]
      _ = 1000000000 := by decide
  next =>
    cases h
    decide

/-- An offset is one of whole minutes. -/
theorem offset?_emod {offset : Int} (h : offset? cs = some (offset, rest)) : offset % 60 = 0 := by
  unfold offset? at h
  split at h
  next =>
    cases h
    rfl
  next =>
    cases h
    rfl
  next =>
    dsimp only at h
    split_ifs at h
    case neg => cases h
    all_goals
      obtain ⟨negative, -, h⟩ := Option.bind_eq_some_iff.1 h
      obtain ⟨hours, -, h⟩ := Option.bind_eq_some_iff.1 h
      split at h
      next =>
        obtain ⟨minutes, -, h⟩ := Option.bind_eq_some_iff.1 h
        split at h
        next =>
          cases h
          split <;> omega
        next => cases h
      next => cases h
  next => cases h

theorem zone?_emod {offset : Int} (h : zone? cs = some (offset, rest)) : offset % 60 = 0 := by
  unfold zone? at h
  split at h
  next =>
    cases h
    rfl
  next => exact offset?_emod h

theorem ofSeconds?_eq_some {seconds : Int} {nanos : Nat} (h : ofSeconds? seconds nanos = some t) :
    t.seconds = seconds ∧ t.nanos = nanos := by
  unfold ofSeconds? at h
  split at h
  next =>
    cases h
    exact ⟨rfl, rfl⟩
  next => cases h

theorem isProper_of_parse? (h : parse? s = some t) : t.IsProper := by
  unfold parse? at h
  obtain ⟨⟨year, cs⟩, -, h⟩ := Option.bind_eq_some_iff.1 h
  obtain ⟨cs, -, h⟩ := Option.bind_eq_some_iff.1 h
  obtain ⟨⟨month, cs⟩, -, h⟩ := Option.bind_eq_some_iff.1 h
  obtain ⟨cs, -, h⟩ := Option.bind_eq_some_iff.1 h
  obtain ⟨⟨day, cs⟩, -, h⟩ := Option.bind_eq_some_iff.1 h
  rcases cs with _ | ⟨c, cs⟩
  · cases h
  dsimp only at h
  by_cases hc : c = 't' ∨ c = 'T' ∨ c = ' '
  case neg =>
    rw [if_neg hc] at h
    cases h
  rw [if_pos hc] at h
  obtain ⟨cs, -, h⟩ := Option.bind_eq_some_iff.1 h
  obtain ⟨⟨hour, cs⟩, -, h⟩ := Option.bind_eq_some_iff.1 h
  obtain ⟨cs, -, h⟩ := Option.bind_eq_some_iff.1 h
  obtain ⟨⟨minute, cs⟩, -, h⟩ := Option.bind_eq_some_iff.1 h
  obtain ⟨cs, -, h⟩ := Option.bind_eq_some_iff.1 h
  obtain ⟨⟨second, cs⟩, -, h⟩ := Option.bind_eq_some_iff.1 h
  obtain ⟨⟨nanos, cs⟩, hfraction, h⟩ := Option.bind_eq_some_iff.1 h
  obtain ⟨⟨offset, cs⟩, hzone, h⟩ := Option.bind_eq_some_iff.1 h
  obtain ⟨wall, hwall, h⟩ := Option.bind_eq_some_iff.1 h
  obtain ⟨-, h⟩ := Option.ite_none_right_eq_some.1 h
  have hlt := fraction?_lt hfraction
  have hoffset := zone?_emod hzone
  obtain ⟨hwall, -⟩ := ofSeconds?_eq_some hwall
  obtain ⟨hseconds, hnanos⟩ := ofSeconds?_eq_some h
  simp only [daySeconds] at hwall
  unfold IsProper
  by_cases hleap : second = 60
  · rw [if_pos hleap] at hnanos
    right
    omega
  · rw [if_neg hleap] at hnanos
    left
    omega

end Timestamp

end Slipway

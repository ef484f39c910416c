import AnKla.Policy.Decimal

/-!
# Dates and instants

The calendar of years 1 to 9999: a day has one date, and dates are in the order of
their days.

* `ValidDate`, `day_number_lt_iff`: valid dates compare as their days.
* `date_of_valid`, `day_number_date_of`: the date of a day is valid, and has that day.
* `parse_format_utc`: the canonical text of an instant is read back.
* `format_utc_lt_iff`: canonical texts compare as the instants do.
-/

namespace AnKla

/-! ## Months -/

theorem days_before_month_succ {year month : ℕ} (h : 1 ≤ month) :
    days_before_month year (month + 1) =
      days_before_month year month + days_in_month year month := by
  obtain ⟨m, rfl⟩ := Nat.exists_eq_add_of_le' h
  simp [days_before_month, List.range_succ]

theorem days_before_month_mono {year m m' : ℕ} (h1 : 1 ≤ m) (h : m ≤ m') :
    days_before_month year m ≤ days_before_month year m' := by
  induction m', h using Nat.le_induction with
  | base => exact le_rfl
  | succ k hk ih =>
    rw [days_before_month_succ (h1.trans hk)]
    omega

/-- The days of a year. -/
def days_in_year (year : ℕ) : ℕ := if is_leap year then 366 else 365

theorem days_before_month_thirteen (year : ℕ) : days_before_month year 13 = days_in_year year := by
  have h : days_before_month year 13 = 337 + days_in_month year 2 := by
    simp [days_before_month, List.range_succ, days_in_month]
    ring
  rw [h, days_in_month, days_in_year]
  split_ifs <;> rfl

theorem days_in_month_pos (year month : ℕ) : 0 < days_in_month year month := by
  rw [days_in_month.eq_def]
  split
  · split_ifs <;> decide
  all_goals decide

/-- The month and the day that `month_of` finds, from a month on. -/
theorem month_of_spec {year n month rest : ℕ} (h1 : 1 ≤ month)
    (hrest : days_before_month year month + rest < days_before_month year (month + n + 1)) :
    month ≤ (month_of year n month rest).1 ∧ (month_of year n month rest).1 ≤ month + n ∧
      1 ≤ (month_of year n month rest).2 ∧
      (month_of year n month rest).2 ≤ days_in_month year (month_of year n month rest).1 ∧
      days_before_month year (month_of year n month rest).1 + ((month_of year n month rest).2 - 1) =
        days_before_month year month + rest := by
  induction n generalizing month rest with
  | zero =>
    rw [add_zero, days_before_month_succ h1] at hrest
    rw [month_of]
    refine ⟨le_rfl, le_rfl, Nat.succ_pos _, ?_, rfl⟩
    dsimp only
    omega
  | succ n ih =>
    rw [month_of]
    split_ifs with hlt
    · exact ⟨le_rfl, Nat.le_add_right _ _, Nat.succ_pos _, hlt, rfl⟩
    · have hsum : days_before_month year (month + 1) + (rest - days_in_month year month) =
          days_before_month year month + rest := by
        rw [days_before_month_succ h1]
        omega
      have hle : month + 1 + n + 1 = month + (n + 1) + 1 := by ring
      obtain ⟨hm, hn, hd1, hd2, hday⟩ := @ih (month + 1) (rest - days_in_month year month)
        (Nat.le_succ_of_le h1) (by rw [hsum, hle]; exact hrest)
      exact ⟨by omega, by omega, hd1, hd2, hday.trans hsum⟩

/-! ## Years -/

theorem days_before_year_succ {year : ℕ} (h : 1 ≤ year) :
    days_before_year (year + 1) = days_before_year year + days_in_year year := by
  obtain ⟨y, rfl⟩ := Nat.exists_eq_add_of_le' h
  have hleap : is_leap (y + 1) = true ↔ 4 ∣ y + 1 ∧ (¬100 ∣ y + 1 ∨ 400 ∣ y + 1) := by
    simp [is_leap, Nat.dvd_iff_mod_eq_zero]
  have h100 : 100 ∣ y + 1 → 4 ∣ y + 1 := (by decide : 4 ∣ 100).trans
  have h400 : 400 ∣ y + 1 → 100 ∣ y + 1 := (by decide : 100 ∣ 400).trans
  have hle : y / 100 ≤ y / 4 := Nat.div_le_div_left (by decide) (by decide)
  have hsub (n : ℕ) : n + 1 - 1 = n := rfl
  simp only [days_in_year, days_before_year, hsub, Nat.succ_div, hleap]
  generalize y / 4 = q4 at *
  generalize y / 100 = q100 at *
  split_ifs <;> omega

theorem days_before_year_mono {y y' : ℕ} (h1 : 1 ≤ y) (h : y ≤ y') :
    days_before_year y ≤ days_before_year y' := by
  induction y', h using Nat.le_induction with
  | base => exact le_rfl
  | succ k hk ih =>
    rw [days_before_year_succ (h1.trans hk)]
    omega

/-! ## Dates -/

/-- A date of the calendar. -/
structure ValidDate (year month day : ℕ) : Prop where
  year_pos : 1 ≤ year
  month_pos : 1 ≤ month
  month_le : month ≤ 12
  day_pos : 1 ≤ day
  day_le : day ≤ days_in_month year month

section ValidDate

variable {y m d y' m' d' : ℕ}

theorem ValidDate.day_of_year_lt (h : ValidDate y m d) :
    days_before_month y m + (d - 1) < days_in_year y := by
  have hmono := @days_before_month_mono y _ _ (Nat.le_add_left 1 m)
    (Nat.succ_le_succ h.month_le)
  rw [days_before_month_succ h.month_pos, days_before_month_thirteen] at hmono
  have h1 := h.day_pos
  have h2 := h.day_le
  omega

theorem ValidDate.day_number_lt (h : ValidDate y m d) :
    day_number y m d < days_before_year (y + 1) := by
  have := h.day_of_year_lt
  rw [day_number, days_before_year_succ h.year_pos]
  omega

/-- A date is before each date of a later year, of a later month, and of a later day. -/
theorem ValidDate.day_number_lt_of_lex (h : ValidDate y m d) (h' : ValidDate y' m' d')
    (hlt : y < y' ∨ y = y' ∧ (m < m' ∨ m = m' ∧ d < d')) :
    day_number y m d < day_number y' m' d' := by
  rcases hlt with hy | ⟨rfl, hm | ⟨rfl, hd⟩⟩
  · calc day_number y m d < days_before_year (y + 1) := h.day_number_lt
      _ ≤ days_before_year y' := days_before_year_mono (Nat.le_add_left 1 y) hy
      _ ≤ day_number y' m' d' := by rw [day_number]; omega
  · have hmono := @days_before_month_mono y _ _ (Nat.le_add_left 1 m) hm
    rw [days_before_month_succ h.month_pos] at hmono
    have h1 := h.day_pos
    have h2 := h.day_le
    rw [day_number, day_number]
    omega
  · have h1 := h.day_pos
    rw [day_number, day_number]
    omega

/-- Valid dates compare as their days. -/
theorem day_number_lt_iff (h : ValidDate y m d) (h' : ValidDate y' m' d') :
    day_number y m d < day_number y' m' d' ↔
      y < y' ∨ y = y' ∧ (m < m' ∨ m = m' ∧ d < d') := by
  refine ⟨fun hlt => ?_, h.day_number_lt_of_lex h'⟩
  by_contra hno
  have hle : (y' < y ∨ y' = y ∧ (m' < m ∨ m' = m ∧ d' < d)) ∨ (y = y' ∧ m = m' ∧ d = d') := by
    omega
  obtain hgt | ⟨rfl, rfl, rfl⟩ := hle
  · exact absurd (h'.day_number_lt_of_lex h hgt) (not_lt.2 hlt.le)
  · exact absurd hlt (lt_irrefl _)

end ValidDate

/-- The year that `date_of` finds, and the day of that year. -/
theorem date_of_year (n : ℕ) :
    ∃ year rest, 1 ≤ year ∧ rest < days_in_year year ∧ days_before_year year + rest = n ∧
      date_of n = (year, (month_of year 11 1 rest).1, (month_of year 11 1 rest).2) := by
  obtain ⟨a, r400, ha, hr400, hn⟩ : ∃ a r, n / 146097 = a ∧ n % 146097 = r ∧ n = 146097 * a + r :=
    ⟨_, _, rfl, rfl, (Nat.div_add_mod _ _).symm⟩
  obtain ⟨b, hb⟩ : ∃ b, min (r400 / 36524) 3 = b := ⟨_, rfl⟩
  obtain ⟨r100, hr100⟩ : ∃ r, r400 - b * 36524 = r := ⟨_, rfl⟩
  obtain ⟨c, hc⟩ : ∃ c, r100 / 1461 = c := ⟨_, rfl⟩
  obtain ⟨r4, hr4⟩ : ∃ r, r100 % 1461 = r := ⟨_, rfl⟩
  obtain ⟨e, he⟩ : ∃ e, min (r4 / 365) 3 = e := ⟨_, rfl⟩
  have hlt400 : r400 < 146097 := hr400 ▸ Nat.mod_lt _ (by decide)
  have hb3 : b ≤ 3 ∧ b * 36524 ≤ r400 ∧ (b < 3 → r100 < 36524) ∧ (b = 3 → r100 < 36525) := by
    omega
  have hc24 : c ≤ 24 ∧ r100 = 1461 * c + r4 ∧ r4 < 1461 ∧ (b < 3 → c = 24 → r4 < 1460) := by
    omega
  have he3 : e ≤ 3 ∧ e * 365 ≤ r4 ∧ (e < 3 → r4 - e * 365 < 365) ∧ r4 - e * 365 < 366 := by
    omega
  refine ⟨a * 400 + b * 100 + c * 4 + e + 1, r4 - e * 365, by omega, ?_, ?_, ?_⟩
  · rw [days_in_year]
    -- The last year of a cycle has one day more, but for most centuries.
    have hleap : is_leap (a * 400 + b * 100 + c * 4 + e + 1) = true ↔
        e = 3 ∧ (c ≠ 24 ∨ b = 3) := by
      simp only [is_leap, Bool.and_eq_true, Bool.or_eq_true, decide_eq_true_eq]
      omega
    by_cases hl : is_leap (a * 400 + b * 100 + c * 4 + e + 1) = true
    · rw [if_pos hl]
      exact he3.2.2.2
    · rw [if_neg hl]
      rw [hleap] at hl
      omega
  · have hsub (n : ℕ) : n + 1 - 1 = n := rfl
    have h4 : (a * 400 + b * 100 + c * 4 + e) / 4 = a * 100 + b * 25 + c := by omega
    have h100 : (a * 400 + b * 100 + c * 4 + e) / 100 = a * 4 + b := by omega
    have h400 : (a * 400 + b * 100 + c * 4 + e) / 400 = a := by omega
    simp only [days_before_year, hsub, h4, h100, h400]
    -- the quotients are not needed any more
    clear ha hr400 hb hc hr4 he hlt400 h4 h100 h400
    omega
  · rw [date_of]
    simp only [ha, hr400, hb, hr100, hc, hr4, he]

/-- The date of a day is valid, and has that day. -/
theorem date_of_spec (n : ℕ) :
    ValidDate (date_of n).1 (date_of n).2.1 (date_of n).2.2 ∧
      day_number (date_of n).1 (date_of n).2.1 (date_of n).2.2 = n := by
  obtain ⟨year, rest, hyear, hrest, hsum, heq⟩ := date_of_year n
  have hone : days_before_month year 1 = 0 := rfl
  have hlt : days_before_month year 1 + rest < days_before_month year (1 + 11 + 1) := by
    rw [hone, zero_add, days_before_month_thirteen]
    exact hrest
  obtain ⟨hm, hm', hd, hd', hday⟩ := month_of_spec le_rfl hlt
  rw [heq]
  refine ⟨⟨hyear, hm, hm', hd, hd'⟩, ?_⟩
  dsimp only
  rw [day_number]
  omega

theorem date_of_lt_iff {n n' : ℕ} : n < n' ↔ (date_of n).1 < (date_of n').1 ∨
    (date_of n).1 = (date_of n').1 ∧ ((date_of n).2.1 < (date_of n').2.1 ∨
      (date_of n).2.1 = (date_of n').2.1 ∧ (date_of n).2.2 < (date_of n').2.2) := by
  obtain ⟨hv, hn⟩ := date_of_spec n
  obtain ⟨hv', hn'⟩ := date_of_spec n'
  rw [← day_number_lt_iff hv hv', hn, hn']

theorem days_in_month_le (year month : ℕ) : days_in_month year month ≤ 31 := by
  rw [days_in_month.eq_def]
  split
  · split_ifs <;> decide
  all_goals decide

theorem year_of_lt {n : ℕ} (h : n < days_before_year 10000) : (date_of n).1 < 10000 := by
  obtain ⟨hv, hn⟩ := date_of_spec n
  by_contra hge
  have := days_before_year_mono (by decide) (not_lt.1 hge)
  rw [day_number] at hn
  omega

/-! ## Instants -/

/-- The parts of an instant, as its canonical text writes them. -/
structure Stamp where
  (year month day hour minute second micro : ℕ)

/-- The parts are of a date and of a time of the day. -/
structure Stamp.Valid (s : Stamp) : Prop where
  date : ValidDate s.year s.month s.day
  year : s.year < 10000
  hour : s.hour ≤ 23
  minute : s.minute ≤ 59
  second : s.second ≤ 59
  micro : s.micro < 1000000

/-- The text of the parts. -/
def Stamp.text (s : Stamp) : List Char :=
  padded 4 s.year ++ '-' :: (padded 2 s.month ++ '-' :: (padded 2 s.day ++ 'T' ::
    (padded 2 s.hour ++ ':' :: (padded 2 s.minute ++ ':' :: (padded 2 s.second ++ '.' ::
      (padded 6 s.micro ++ ['Z']))))))

/-- The instant that the parts are of. -/
def Stamp.instant (s : Stamp) : ℕ :=
  (day_number s.year s.month s.day * 86400 + s.hour * 3600 + s.minute * 60 + s.second) *
    micros_per_second + s.micro

/-- The parts of an instant. -/
def stamp_of (t : Instant) : Stamp where
  year := (date_of (t / micros_per_day)).1
  month := (date_of (t / micros_per_day)).2.1
  day := (date_of (t / micros_per_day)).2.2
  hour := t % micros_per_day / micros_per_second / 3600
  minute := t % micros_per_day / micros_per_second / 60 % 60
  second := t % micros_per_day / micros_per_second % 60
  micro := t % micros_per_day % micros_per_second

/-- The parts of the time of the day of an instant, with those of a date. -/
def Stamp.on (year month day : ℕ) (t : Instant) : Stamp where
  year := year
  month := month
  day := day
  hour := t % micros_per_day / micros_per_second / 3600
  minute := t % micros_per_day / micros_per_second / 60 % 60
  second := t % micros_per_day / micros_per_second % 60
  micro := t % micros_per_day % micros_per_second

-- The date is given by an equation: the code that finds it is not to be unfolded.
section On

variable {year month day : ℕ} {t : Instant}

theorem stamp_of_eq (h : date_of (t / micros_per_day) = (year, month, day)) :
    stamp_of t = Stamp.on year month day t := by
  rw [stamp_of, Stamp.on, h]

theorem format_utc_eq (h : date_of (t / micros_per_day) = (year, month, day)) :
    format_utc t = String.ofList (padded 4 year ++ '-' :: padded 2 month ++ '-' :: padded 2 day ++
      'T' :: padded 2 (t % micros_per_day / micros_per_second / 3600) ++ ':' ::
      padded 2 (t % micros_per_day / micros_per_second / 60 % 60) ++ ':' ::
      padded 2 (t % micros_per_day / micros_per_second % 60) ++ '.' ::
      padded 6 (t % micros_per_day % micros_per_second) ++ ['Z']) := by
  rw [format_utc, h]

theorem Stamp.text_on : (Stamp.on year month day t).text =
    padded 4 year ++ '-' :: padded 2 month ++ '-' :: padded 2 day ++ 'T' ::
      padded 2 (t % micros_per_day / micros_per_second / 3600) ++ ':' ::
      padded 2 (t % micros_per_day / micros_per_second / 60 % 60) ++ ':' ::
      padded 2 (t % micros_per_day / micros_per_second % 60) ++ '.' ::
      padded 6 (t % micros_per_day % micros_per_second) ++ ['Z'] := by
  simp only [Stamp.text, Stamp.on, List.append_assoc, List.cons_append]

theorem Stamp.instant_on (h : day_number year month day = t / micros_per_day) :
    (Stamp.on year month day t).instant = t := by
  simp only [Stamp.instant, Stamp.on, h, micros_per_day, micros_per_second]
  omega

theorem Stamp.valid_on (hdate : ValidDate year month day) (hyear : year < 10000) :
    (Stamp.on year month day t).Valid where
  date := hdate
  year := hyear
  hour := by
    simp only [Stamp.on, micros_per_day, micros_per_second]
    omega
  minute := by
    simp only [Stamp.on]
    omega
  second := by
    simp only [Stamp.on]
    omega
  micro := Nat.mod_lt _ (by decide)

end On

theorem toList_format_utc (t : Instant) : (format_utc t).toList = (stamp_of t).text := by
  rcases h : date_of (t / micros_per_day) with ⟨year, month, day⟩
  rw [stamp_of_eq h, Stamp.text_on, format_utc_eq h, String.toList_ofList]

theorem stamp_of_instant (t : Instant) : (stamp_of t).instant = t := by
  have hday := (date_of_spec (t / micros_per_day)).2
  rcases h : date_of (t / micros_per_day) with ⟨year, month, day⟩
  rw [h] at hday
  rw [stamp_of_eq h]
  exact Stamp.instant_on hday

theorem stamp_of_valid {t : Instant} (ht : t < max_instant) : (stamp_of t).Valid := by
  have hdate := (date_of_spec (t / micros_per_day)).1
  have hyear : (date_of (t / micros_per_day)).1 < 10000 := by
    refine year_of_lt (Nat.div_lt_of_lt_mul ?_)
    rw [mul_comm]
    exact ht
  rcases h : date_of (t / micros_per_day) with ⟨year, month, day⟩
  rw [h] at hdate hyear
  rw [stamp_of_eq h]
  exact Stamp.valid_on hdate hyear

section Stamp

variable {s s' : Stamp}

/-- The text of the parts, read back. -/
theorem Stamp.parse (h : s.Valid) : parse_local s.text = some (s.instant, 0) := by
  have hmonth : s.month < 10 ^ 2 := lt_of_le_of_lt h.date.month_le (by decide)
  have hday : s.day < 10 ^ 2 :=
    lt_of_le_of_lt (h.date.day_le.trans (days_in_month_le _ _)) (by decide)
  have hhour : s.hour < 10 ^ 2 := lt_of_le_of_lt h.hour (by decide)
  have hminute : s.minute < 10 ^ 2 := lt_of_le_of_lt h.minute (by decide)
  have hsecond : s.second < 10 ^ 2 := lt_of_le_of_lt h.second (by decide)
  have hchar (c : Char) (t : List Char) : take_char c (c :: t) = some t := by simp [take_char]
  have hfraction : take_fraction ('.' :: (padded 6 s.micro ++ ['Z'])) = some (s.micro, ['Z']) := by
    have hlen := length_padded (w := 6) (by decide) h.micro
    have htake : (padded 6 s.micro ++ ['Z']).takeWhile (fun c => '0' ≤ c && c ≤ '9') =
        padded 6 s.micro := by
      rw [List.takeWhile_append_of_pos]
      · rw [List.takeWhile_cons_of_neg (by decide), List.append_nil]
      · intro c hc
        have := isDigit_padded c hc
        rw [Char.isDigit, Bool.and_eq_true, decide_eq_true_eq, decide_eq_true_eq] at this
        rw [Bool.and_eq_true, decide_eq_true_eq, decide_eq_true_eq]
        exact this
    rw [take_fraction]
    simp only [htake, hlen, Nat.sub_self, List.replicate_zero, List.append_nil,
      digits_value_eq padded_ne_nil isDigit_padded, ofDigitChars_padded]
    rw [if_pos (by decide), List.drop_left' hlen]
    rfl
  have hvalid : 1 ≤ s.year ∧ 1 ≤ s.month ∧ s.month ≤ 12 ∧ 1 ≤ s.day ∧
      s.day ≤ days_in_month s.year s.month ∧ s.hour ≤ 23 ∧ s.minute ≤ 59 ∧ s.second ≤ 59 :=
    ⟨h.date.year_pos, h.date.month_pos, h.date.month_le, h.date.day_pos, h.date.day_le, h.hour, h.minute,
      h.second⟩
  have hz : zone_offset ['Z'] = some 0 := rfl
  have hbind {α β : Type} {x : Option α} {a : α} (f : α → Option β) (hx : x = some a) :
      x >>= f = f a := by rw [hx]; rfl
  have htwo {n : ℕ} (s : List Char) (hn : n < 10 ^ 2) : take_digits 2 (padded 2 n ++ s) = some (n, s) :=
    take_digits_padded (by decide) hn s
  rw [parse_local, Stamp.text]
  refine (hbind _ (take_digits_padded (by decide) h.year _)).trans ?_
  refine (hbind _ (hchar _ _)).trans ((hbind _ (htwo _ hmonth)).trans ?_)
  refine (hbind _ (hchar _ _)).trans ((hbind _ (htwo _ hday)).trans ?_)
  refine (hbind _ (hchar _ _)).trans ((hbind _ (htwo _ hhour)).trans ?_)
  refine (hbind _ (hchar _ _)).trans ((hbind _ (htwo _ hminute)).trans ?_)
  refine (hbind _ (hchar _ _)).trans ((hbind _ (htwo _ hsecond)).trans ?_)
  refine (hbind _ hfraction).trans ((hbind _ hz).trans ?_)
  rw [if_pos hvalid]
  rfl

/-- Texts of parts compare as the parts, from the year down. -/
theorem Stamp.text_lt_iff (h : s.Valid) (h' : s'.Valid) : s.text < s'.text ↔
    s.year < s'.year ∨ s.year = s'.year ∧ (s.month < s'.month ∨ s.month = s'.month ∧
      (s.day < s'.day ∨ s.day = s'.day ∧ (s.hour < s'.hour ∨ s.hour = s'.hour ∧
        (s.minute < s'.minute ∨ s.minute = s'.minute ∧ (s.second < s'.second ∨
          s.second = s'.second ∧ s.micro < s'.micro))))) := by
  have two {n : ℕ} (hn : n ≤ 59) : n < 10 ^ 2 := lt_of_le_of_lt hn (by decide)
  have month {s : Stamp} (h : s.Valid) : s.month ≤ 59 := h.date.month_le.trans (by decide)
  have day {s : Stamp} (h : s.Valid) : s.day ≤ 59 :=
    h.date.day_le.trans ((days_in_month_le _ _).trans (by decide))
  have hour {s : Stamp} (h : s.Valid) : s.hour ≤ 59 := h.hour.trans (by decide)
  have hcons (c : Char) (t t' : List Char) : c :: t < c :: t' ↔ t < t' := by
    simp
  rw [Stamp.text, Stamp.text, padded_append_lt_iff (by decide) h.year h'.year, hcons,
    padded_append_lt_iff (by decide) (two (month h)) (two (month h')), hcons,
    padded_append_lt_iff (by decide) (two (day h)) (two (day h')), hcons,
    padded_append_lt_iff (by decide) (two (hour h)) (two (hour h')), hcons,
    padded_append_lt_iff (by decide) (two h.minute) (two h'.minute), hcons,
    padded_append_lt_iff (by decide) (two h.second) (two h'.second), hcons,
    padded_append_lt_iff (by decide) h.micro h'.micro]
  simp

/-- Instants compare as their parts. -/
theorem Stamp.instant_lt_iff (h : s.Valid) (h' : s'.Valid) : s.instant < s'.instant ↔
    s.text < s'.text := by
  rw [Stamp.text_lt_iff h h']
  have hdate := day_number_lt_iff h.date h'.date
  have hdate' := day_number_lt_iff h'.date h.date
  have h1 := h.hour
  have h2 := h.minute
  have h3 := h.second
  have h4 := h.micro
  have h1' := h'.hour
  have h2' := h'.minute
  have h3' := h'.second
  have h4' := h'.micro
  rw [Stamp.instant, Stamp.instant, micros_per_second]
  rcases lt_trichotomy (day_number s.year s.month s.day) (day_number s'.year s'.month s'.day)
    with hlt | heq | hgt
  · have hlex := hdate.1 hlt
    omega
  · have hno := fun h => heq.not_lt (hdate.2 h)
    have hno' := fun h => heq.not_gt (hdate'.2 h)
    omega
  · have hlex := hdate'.1 hgt
    omega

end Stamp

/-- The canonical text of an instant is read back. -/
theorem parse_format_utc {t : Instant} (h : t < max_instant) :
    parse_verified_at (format_utc t) = .ok t := by
  rw [parse_verified_at, toList_format_utc, Stamp.parse (stamp_of_valid h), stamp_of_instant]
  simp [h]

/-- Canonical texts compare as the instants do. -/
theorem format_utc_lt_iff {t t' : Instant} (h : t < max_instant) (h' : t' < max_instant) :
    format_utc t < format_utc t' ↔ t < t' := by
  rw [String.lt_iff_toList_lt, toList_format_utc, toList_format_utc,
    ← Stamp.instant_lt_iff (stamp_of_valid h) (stamp_of_valid h'), stamp_of_instant,
    stamp_of_instant]

end AnKla

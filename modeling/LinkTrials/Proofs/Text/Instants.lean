import LinkTrials.Instant
import LinkTrials.Proofs.Text.Digits

/-!
Instants that are read as they were written.

The parts of a date-time text are numbers of a fixed width and the characters between them. Only years
outside of four digits are longer, and they have a sign, behind which all digits are read. A leap second
is written as the second of number 60 and read as the one after the 59th.
-/
namespace LinkTrials.Instant

open Text

variable {c : Char} {ds rest : List Char} {n w : Nat}

/-! ### Numbers of a fixed width -/

theorem allDigits_padded (w n : Nat) : AllDigits (padded w n) :=
  (allDigits_zeros _).append (allDigits_toDigits n)

theorem padded_ne_nil (w n : Nat) : padded w n ≠ [] :=
  List.append_ne_nil_of_right_ne_nil _ Nat.toDigits_ne_nil

theorem digitsValue_padded (w n : Nat) : digitsValue 0 (padded w n) = n := by
  rw [padded, digitsValue_append, digitsValue_zeros, Nat.zero_mul, digitsValue_toDigits]

theorem length_padded (hw : 0 < w) (h : n < Nat.pow 10 w) : (padded w n).length = w := by
  have few : (Nat.toDigits 10 n).length ≤ w := (Nat.length_toDigits_le_iff (by decide) hw).2 h
  rw [padded, List.length_append, List.length_replicate]
  omega

theorem trimFront_digits (all : AllDigits ds) (some : ds ≠ []) :
    trimFront (ds ++ rest) = ds ++ rest := by
  obtain ⟨c, ds, rfl⟩ := List.exists_cons_of_ne_nil some
  refine trimFront_eq_self fun a ha => ?_
  cases ha
  exact isBlank_of_isDigit (all c List.mem_cons_self)

/-- Digits of the full width, or fewer before something else. -/
theorem number_digits (all : AllDigits ds) (some : ds ≠ []) (few : ds.length ≤ w)
    (ends : ds.length = w ∨ EndsDigits rest) :
    number (.some w) (ds ++ rest) = .ok (digitsValue 0 ds, rest) := by
  have first : ((ds ++ rest).take w).takeWhile Char.isDigit = ds := by
    rw [List.take_append, List.take_of_length_le few]
    refine takeWhile_digits all fun c hc => ?_
    rcases ends with full | ends
    · rw [full, Nat.sub_self, List.take_zero] at hc
      cases hc
    · refine ends c ?_
      rw [List.head?_take] at hc
      split at hc
      · cases hc
      · exact hc
  obtain ⟨c, ds, rfl⟩ := List.exists_cons_of_ne_nil some
  rw [List.cons_append] at first ⊢
  simp only [number, all c List.mem_cons_self, if_true, first]
  rw [← List.cons_append, List.drop_left]
  rfl

theorem number_signed (all : AllDigits ds) (some : ds ≠ []) (ends : EndsDigits rest) :
    number none (ds ++ rest) = .ok (digitsValue 0 ds, rest) := by
  have first := takeWhile_digits all ends
  obtain ⟨c, ds, rfl⟩ := List.exists_cons_of_ne_nil some
  rw [List.cons_append] at first ⊢
  simp only [number, all c List.mem_cons_self, if_true, first]
  rw [← List.cons_append, List.drop_left]
  rfl

theorem bounded_padded {low high : Nat} (hl : low ≤ n) (hh : n ≤ high) (h : n < 100) :
    bounded low high (padded 2 n ++ rest) = .ok (n, rest) := by
  have all := allDigits_padded 2 n
  have some := padded_ne_nil 2 n
  have length := length_padded (by decide : 0 < 2) h
  rw [bounded, trimFront_digits all some, number_digits all some (Nat.le_of_eq length) (.inl length),
    digitsValue_padded]
  exact if_pos ⟨hl, hh⟩

theorem separator_cons (h : isBlank c = false) : separator c (c :: rest) = .ok rest := by
  have front : trimFront (c :: rest) = c :: rest := trimFront_eq_self fun a ha => by cases ha; exact h
  rw [separator, front]
  exact if_pos rfl

/-! ### Years -/

theorem year_digits (all : AllDigits ds) (some : ds ≠ []) (width : ds.length = 4) :
    year (ds ++ rest) = .ok ((digitsValue 0 ds : Int), rest) := by
  have value : number (.some 4) (ds ++ rest) = _ :=
    number_digits all some (Nat.le_of_eq width) (.inl width)
  have bound := digitsValue_lt 0 all
  have small : (0 + 1) * Nat.pow 10 ds.length = 10000 := by rw [width]
  rw [year, trimFront_digits all some]
  obtain ⟨c, ds, rfl⟩ := List.exists_cons_of_ne_nil some
  have digit := all c List.mem_cons_self
  split
  · next eq =>
    cases eq
    exact absurd digit (by decide)
  · next eq =>
    cases eq
    exact absurd digit (by decide)
  · simp only [value, bind, Except.bind, Except.map]
    rw [if_pos (by omega)]

theorem year_signed {negative : Bool} (all : AllDigits ds) (some : ds ≠ []) (ends : EndsDigits rest)
    (small : digitsValue 0 ds < 2147483648) :
    year ((if negative then '-' else '+') :: ds ++ rest) =
      .ok (if negative then -(digitsValue 0 ds : Int) else digitsValue 0 ds, rest) := by
  have value := number_signed all some ends
  cases negative with
  | false =>
      simp only [Bool.false_eq_true, if_false]
      rw [List.cons_append, year, trimFront_eq_self (by rintro a ⟨⟩; decide)]
      simp only [value, bind, Except.bind, Except.map]
      rw [if_pos (by omega)]
  | true =>
      simp only [if_true]
      rw [List.cons_append, year, trimFront_eq_self (by rintro a ⟨⟩; decide)]
      simp only [value, bind, Except.bind, Except.map]
      rw [if_pos (by omega)]

theorem year_text {y : Int} (low : Calendar.firstYear ≤ y) (high : y ≤ Calendar.lastYear)
    (ends : EndsDigits rest) : year (yearText y ++ rest) = .ok (y, rest) := by
  simp only [Calendar.firstYear, Calendar.lastYear] at low high
  have all (n : Nat) := allDigits_padded 4 n
  have some (n : Nat) := padded_ne_nil 4 n
  rw [yearText]
  split
  · next plain =>
    have small : y.toNat < Nat.pow 10 4 := by
      have tenThousand : Nat.pow 10 4 = 10000 := rfl
      omega
    rw [year_digits (all _) (some _) (length_padded (by decide) small), digitsValue_padded,
      Int.toNat_of_nonneg plain.1]
  · next signed =>
    have sign : (if y < 0 then '-' else '+') = if decide (y < 0) then '-' else '+' := by simp
    rw [sign, year_signed (all _) (some _) ends (by rw [digitsValue_padded]; omega),
      digitsValue_padded]
    by_cases negative : y < 0
    · rw [decide_eq_true negative, if_pos rfl]
      exact congrArg (fun y => Except.ok (y, rest)) (by omega)
    · rw [decide_eq_false negative, if_neg Bool.false_ne_true]
      exact congrArg (fun y => Except.ok (y, rest)) (by omega)

/-! ### Fractions of a second -/

/-- Digits of a fraction of a second, the places behind them being zeros. -/
theorem fraction_padded {k : Nat} (hw : 0 < w) (hk : w + k = 9) (h : n < Nat.pow 10 w)
    (ends : EndsDigits rest) :
    fraction ('.' :: (padded w n ++ rest)) = .ok (n * Nat.pow 10 k, rest) := by
  have length := length_padded hw h
  have value : number (.some 9) (padded w n ++ rest) = _ :=
    number_digits (allDigits_padded w n) (padded_ne_nil w n) (by omega) (.inr ends)
  have unused : 9 - ((padded w n ++ rest).length - rest.length) = k := by
    rw [List.length_append]
    omega
  have behind : rest.dropWhile Char.isDigit = rest := by
    rw [← List.nil_append rest]
    exact dropWhile_digits (fun _ h => nomatch h) ends
  simp only [fraction, value, bind, Except.bind, unused, digitsValue_padded, behind]

theorem fraction_text (t : Instant) :
    fraction (fractionText t ++ ['Z']) = .ok (t.nanos % 1000000000, ['Z']) := by
  have ends : EndsDigits ['Z'] := endsDigits_cons (by decide) []
  have below : t.nanos % 1000000000 < 1000000000 := Nat.mod_lt _ (by decide)
  simp only [fractionText]
  generalize t.nanos % 1000000000 = f at below
  split
  · next none =>
    rw [none]
    rfl
  · split
    · next millis =>
      have value := fraction_padded (k := 6) (w := 3) (n := f / 1000000) (by decide) rfl
        (Nat.div_lt_of_lt_mul below) ends
      rw [Nat.div_mul_cancel (Nat.dvd_of_mod_eq_zero millis)] at value
      exact value
    · split
      · next micros =>
        have value := fraction_padded (k := 3) (w := 6) (n := f / 1000) (by decide) rfl
          (Nat.div_lt_of_lt_mul below) ends
        rw [Nat.div_mul_cancel (Nat.dvd_of_mod_eq_zero micros)] at value
        exact value
      · have value := fraction_padded (k := 0) (w := 9) (by decide) rfl below ends
        rw [Nat.pow_eq, Nat.pow_zero, Nat.mul_one] at value
        exact value

/-! ### All parts together -/

theorem ofLocal_zero {day : Day} {hour minute second nanos : Nat} (hh : hour < 24) (hm : minute < 60)
    (hs : second < 60) (hn : nanos < 1000000000 ∨ (second = 59 ∧ nanos < 2000000000)) :
    ofLocal day hour minute second nanos 0 = .ok ⟨day, hour, minute, second, nanos, hh, hm, hs, hn⟩ := by
  have minutes : (hour : Int) * 60 + minute - 0 = ((hour * 60 + minute : Nat) : Int) := by omega
  have inDay : (((hour * 60 + minute : Nat) : Int) % 1440).toNat = hour * 60 + minute := by omega
  have hour' : (hour * 60 + minute) / 60 = hour := by omega
  have minute' : (hour * 60 + minute) % 60 = minute := by omega
  simp only [ofLocal, minutes, inDay]
  rw [if_neg (by omega), if_neg (by omega)]
  simp only [hour', minute']
  rw [dif_pos ⟨hh, hs, hn⟩]

theorem ofParts?_self (d : Day) : Day.ofParts? d.year d.month d.day = some d :=
  dif_pos ⟨d.year_ge, d.year_le, d.month_pos, d.month_le, d.day_pos, d.day_le⟩

theorem day_lt (d : Day) : d.day ≤ 31 := by
  refine Nat.le_trans d.day_le ?_
  rw [Calendar.daysInMonth]
  split
  · split <;> decide
  · split <;> decide

/-- The second as it is written and the fraction behind it make up the instant again. -/
theorem ofLocal_second (t : Instant) :
    (if t.second + t.nanos / 1000000000 = 60 then
        ofLocal t.day t.hour t.minute 59 (t.nanos % 1000000000 + 1000000000) 0
      else ofLocal t.day t.hour t.minute (t.second + t.nanos / 1000000000) (t.nanos % 1000000000) 0) =
      .ok t := by
  have bound := t.second_lt
  by_cases short : t.nanos < 1000000000
  · have second : t.second + t.nanos / 1000000000 = t.second := by omega
    have nanos : t.nanos % 1000000000 = t.nanos := Nat.mod_eq_of_lt short
    rw [second, nanos, if_neg (by omega)]
    exact ofLocal_zero t.hour_lt t.minute_lt t.second_lt t.nanos_lt
  · obtain ⟨last, leap⟩ := t.nanos_lt.resolve_left short
    have nanos : t.nanos % 1000000000 + 1000000000 = t.nanos := by omega
    rw [if_pos (by omega), nanos, ← last]
    exact ofLocal_zero t.hour_lt t.minute_lt t.second_lt t.nanos_lt

/-- Writing an instant and reading the text gives the instant. -/
theorem ofText_toText (t : Instant) : ofText t.toText = .ok t := by
  have day_le := day_lt t.day
  have hour_lt := t.hour_lt
  have minute_lt := t.minute_lt
  have second_lt := t.second_lt
  have nanos_lt := t.nanos_lt
  have yearOf (cs : List Char) := year_text t.day.year_ge t.day.year_le
    (endsDigits_cons (by decide : ('-').isDigit = false) cs)
  have monthOf (cs : List Char) : bounded 1 12 (padded 2 t.day.month ++ cs) = .ok (t.day.month, cs) :=
    bounded_padded t.day.month_pos t.day.month_le (by have := t.day.month_le; omega)
  have dayOf (cs : List Char) : bounded 1 31 (padded 2 t.day.day ++ cs) = .ok (t.day.day, cs) :=
    bounded_padded t.day.day_pos day_le (by omega)
  have hourOf (cs : List Char) : bounded 0 23 (padded 2 t.hour ++ cs) = .ok (t.hour, cs) :=
    bounded_padded (Nat.zero_le _) (by omega) (by omega)
  have minuteOf (cs : List Char) : bounded 0 59 (padded 2 t.minute ++ cs) = .ok (t.minute, cs) :=
    bounded_padded (Nat.zero_le _) (by omega) (by omega)
  have secondOf (cs : List Char) :
      bounded 0 60 (padded 2 (t.second + t.nanos / 1000000000) ++ cs) =
        .ok (t.second + t.nanos / 1000000000, cs) :=
    bounded_padded (Nat.zero_le _) (by omega) (by omega)
  have hyphen (cs : List Char) : separator '-' ('-' :: cs) = .ok cs := separator_cons (by decide)
  have colon (cs : List Char) : separator ':' (':' :: cs) = .ok cs := separator_cons (by decide)
  -- Nothing is left behind the zone, and a zone without offset is in every range.
  have zone : offset ['Z'] = .ok (0, []) := by decide +kernel
  have nothing : ¬ trimFront [] ≠ [] := by decide
  have within : ¬ ((0 : Int) ≤ -1440 ∨ 1440 ≤ (0 : Int)) := by decide
  simp only [ofText, toText, String.toList_ofList, dateText, timeText, List.append_assoc,
    List.cons_append, bind, Except.bind, yearOf, hyphen, monthOf, dayOf, hourOf, colon, minuteOf,
    secondOf, fraction_text, zone, if_neg nothing, ofParts?_self, if_neg within]
  exact ofLocal_second t

end LinkTrials.Instant

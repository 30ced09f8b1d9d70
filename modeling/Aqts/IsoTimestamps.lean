import Mathlib.Data.String.Basic
import Mathlib.Order.Lattice

/-!
# Timestamps and their texts

A point of time in UTC with the fields of `datetime`, its text in the format of
`isoformat`, and its distance from an origin in microseconds. The text leaves
out the microseconds when they are zero, so texts have two lengths; they are
nevertheless in the order of the points of time, which is what a store that
sorts the texts relies on.
-/

namespace Aqts.IsoTimestamps

/-- Days of a month. -/
def daysInMonth (year month : ℕ) : ℕ :=
  if month=2 then
    if year%4=0 ∧ (year%100≠0 ∨ year%400=0) then 29 else 28
  else if month=4 ∨ month=6 ∨ month=9 ∨ month=11 then 30
  else 31

/-- `datetime` in UTC. -/
structure Datetime where
  /-- `year`. -/
  year : ℕ
  /-- `month`. -/
  month : ℕ
  /-- `day`. -/
  day : ℕ
  /-- `hour`. -/
  hour : ℕ
  /-- `minute`. -/
  minute : ℕ
  /-- `second`. -/
  second : ℕ
  /-- `microsecond`. -/
  microsecond : ℕ
  /-- The fields of the date are in their ranges. -/
  dated : 1≤year ∧ year<10000 ∧ 1≤ month ∧ month<13 ∧ 1≤day ∧ day≤daysInMonth year month
  /-- And those of the time. -/
  timed : hour<24 ∧ minute<60 ∧ second<60 ∧ microsecond<1000000
  deriving DecidableEq

/-- `datetime.min`. -/
def Datetime.min : Datetime := ⟨1,1,1,0,0,0,0,by decide,by decide⟩

/-- The fields as one number, in which points of time are compared. -/
def Datetime.key (d : Datetime) : ℕ :=
  (((((d.year*100+d.month)*100+d.day)*100+d.hour)*100+d.minute)*100+d.second)*1000000+d.microsecond

/-- `toordinal`: days up to a date, that day included. -/
def Datetime.toordinal (d : Datetime) : ℕ :=
  let before := d.year-1
  (List.range (d.month-1)).foldl (fun days m => days+daysInMonth d.year (m+1))
    (before*365+before/4-before/100+before/400)+d.day

/-- Microseconds since an origin: differences of two points of time are those of
this number. -/
def Datetime.micros (d : Datetime) : ℤ :=
  (((d.toordinal*24+d.hour)*60+d.minute)*60+d.second : ℕ)*1000000+d.microsecond

/-- Decimal digits of a number at a fixed width. -/
def pad : ℕ→ℕ→List Char
  | 0,_ => []
  | width+1,n => Nat.digitChar (n/10^width)::pad width (n%10^width)

/-- The text after the seconds. -/
def fraction (microsecond : ℕ) : List Char :=
  (if microsecond=0 then [] else '.'::pad 6 microsecond)++"+00:00".toList

/-- `isoformat`. -/
def Datetime.isoformat (d : Datetime) : String :=
  String.ofList (pad 4 d.year++ '-'::(pad 2 d.month++ '-'::(pad 2 d.day++ 'T'::(pad 2 d.hour++
    ':'::(pad 2 d.minute++ ':'::(pad 2 d.second++fraction d.microsecond))))))

example : (⟨2026,4,13,9,5,0,1200,by decide,by decide⟩ : Datetime).isoformat=
    "2026-04-13T09:05:00.001200+00:00" := by decide

/-- A month has at most 31 days. -/
theorem daysInMonth_le (year month : ℕ) : daysInMonth year month≤31 := by
  unfold daysInMonth
  split
  · split <;> decide
  · split <;> decide

/-- The number determines the point of time. -/
theorem Datetime.key_injective {a b : Datetime} (h : a.key=b.key) : a=b := by
  have ha := daysInMonth_le a.year a.month
  have hb := daysInMonth_le b.year b.month
  obtain ⟨_,_,_,_,_,_⟩ := a.dated
  obtain ⟨_,_,_,_,_,_⟩ := b.dated
  obtain ⟨_,_,_,_⟩ := a.timed
  obtain ⟨_,_,_,_⟩ := b.timed
  unfold key at h
  cases a
  cases b
  dsimp only at *
  simp only [mk.injEq]
  omega

/-- No point of time is before the first. -/
theorem Datetime.min_key_le (d : Datetime) : min.key≤ d.key := by
  obtain ⟨_,_,_,_,_,_⟩ := d.dated
  have hmin : min.key=10101000000000000 := by decide
  rw [hmin]
  unfold key
  omega

/-- Digits are in the order of their values. -/
theorem digitChar_lt {a b : ℕ} (hb : b<10) (h : a<b) : Nat.digitChar a<Nat.digitChar b := by
  have hall : ∀ b<10,∀ a<b,Nat.digitChar a<Nat.digitChar b := by decide
  exact hall b hb a h

/-- A common prefix does not count. -/
theorem append_lt {p x y : List Char} (h : x<y) : p++x<p++y := by
  induction p with
  | nil => exact h
  | cons c p ih => exact List.Lex.cons ih

/-- Padded numbers are in the order of their values, whatever follows them. -/
theorem pad_append_lt {width a b : ℕ} {x y : List Char} (hb : b<10^width) (h : a<b) :
    pad width a++x<pad width b++y := by
  induction width generalizing a b with
  | zero => omega
  | succ width ih =>
    have hpos : 0<10^width := Nat.pow_pos (by decide)
    have hfirst : b/10^width<10 := Nat.div_lt_of_lt_mul (by rwa [Nat.pow_succ] at hb)
    obtain hlt | heq := (Nat.div_le_div_right (c := 10^width) h.le).lt_or_eq
    · exact .rel (digitChar_lt hfirst hlt)
    · have hrest : a%10^width<b%10^width := by
        have ha := Nat.div_add_mod a (10^width)
        have hb := Nat.div_add_mod b (10^width)
        rw [heq] at ha
        omega
      unfold pad
      rw [heq]
      exact .cons (ih (Nat.mod_lt b hpos) hrest)

/-- A field decides, or else what follows it. -/
theorem field_lt {width a b : ℕ} {x y : List Char} (hb : b<10^width)
    (h : a<b ∨ a=b ∧ x<y) : pad width a++x<pad width b++y := by
  obtain hlt | ⟨rfl,hrest⟩ := h
  · exact pad_append_lt hb hlt
  · exact append_lt hrest

/-- So do the microseconds, where an absent fraction comes first. -/
theorem fraction_lt {a b : ℕ} (hb : b<1000000) (h : a<b) : fraction a<fraction b := by
  unfold fraction
  rw [if_neg (Nat.ne_zero_of_lt h)]
  by_cases hzero : a=0
  · rw [if_pos hzero]
    exact .rel (by decide)
  · rw [if_neg hzero]
    exact .cons (pad_append_lt hb h)

/-- The number is smaller when the first field that differs is. -/
theorem Datetime.key_cases {a b : Datetime} (h : a.key<b.key) :
    a.year<b.year ∨ a.year=b.year ∧ (a.month<b.month ∨ a.month=b.month ∧ (a.day<b.day ∨
      a.day=b.day ∧ (a.hour<b.hour ∨ a.hour=b.hour ∧ (a.minute<b.minute ∨ a.minute=b.minute ∧
        (a.second<b.second ∨ a.second=b.second ∧ a.microsecond<b.microsecond))))) := by
  have ha := daysInMonth_le a.year a.month
  have hb := daysInMonth_le b.year b.month
  obtain ⟨_,_,_,_,_,_⟩ := a.dated
  obtain ⟨_,_,_,_,_,_⟩ := b.dated
  obtain ⟨_,_,_,_⟩ := a.timed
  obtain ⟨_,_,_,_⟩ := b.timed
  unfold key at h
  omega

/-- Texts are in the order of the points of time. -/
theorem Datetime.isoformat_lt {a b : Datetime} (h : a.key<b.key) : a.isoformat<b.isoformat := by
  have hmonthDays := daysInMonth_le b.year b.month
  obtain ⟨_,hyear,_,hmonth,_,hday⟩ := b.dated
  obtain ⟨hhour,hminute,hsecond,hmicrosecond⟩ := b.timed
  rw [String.lt_iff_toList_lt]
  unfold isoformat
  rw [String.toList_ofList,String.toList_ofList]
  refine field_lt hyear ((key_cases h).imp_right (.imp_right fun h => .cons ?_))
  refine field_lt (by omega) (h.imp_right (.imp_right fun h => .cons ?_))
  refine field_lt (by omega) (h.imp_right (.imp_right fun h => .cons ?_))
  refine field_lt (by omega) (h.imp_right (.imp_right fun h => .cons ?_))
  refine field_lt (by omega) (h.imp_right (.imp_right fun h => .cons ?_))
  exact field_lt (by omega) (h.imp_right (.imp_right fun h => fraction_lt hmicrosecond h))

/-- A text determines its point of time. -/
theorem Datetime.isoformat_injective {a b : Datetime} (h : a.isoformat=b.isoformat) : a=b := by
  apply key_injective
  by_contra hkey
  obtain hlt | hlt := lt_or_gt_of_ne hkey
  · exact absurd h (isoformat_lt hlt).ne
  · exact absurd h (isoformat_lt hlt).ne'

/-- A text of a point of time is not empty. -/
theorem Datetime.isoformat_ne_empty (d : Datetime) : d.isoformat≠"" := by
  intro h
  have hlist := congrArg String.toList h
  unfold isoformat at hlist
  rw [String.toList_ofList] at hlist
  cases hlist

end Aqts.IsoTimestamps

import Mathlib.Data.Nat.ModEq
import Stablecoin.Proofs.Rounding
import Stablecoin.TargetPrice

set_option autoImplicit false

/-! # The crawl of the target price

A crawl up and a crawl down are written as two branches, and its end as a third. All three are one
formula: at every time the price has come a part of the distance between the anchors, rounded down,
which is the whole distance from the end of the period on (`exists_crawled`). How that part grows
with time (`crawled_mono`, `crawled_le_add`) is then what the price does, in either direction and
across the end of the period (`crawls_steadily`). -/

namespace Stablecoin

/-! ## Distances -/

/-- How far two amounts are apart. -/
def Amount.distance (a b : Amount) : Nat :=
  (a.toNat - b.toNat) + (b.toNat - a.toNat)

/-- An amount lies between two others, whichever of these is the greater. -/
def Amount.Between (a b x : Amount) : Prop :=
  (a ≤ x ∧ x ≤ b) ∨ (b ≤ x ∧ x ≤ a)

/-- Where an amount lies between two others is told by its distance to one of them. -/
theorem Amount.Between.eq_of_distance {a b x y : Amount} (hx : Between a b x) (hy : Between a b y)
    (h : a.distance x = a.distance y) : x = y := by
  simp only [Between, le_iff, distance] at hx hy h
  apply Amount.ext
  omega

/-! ## The way of a crawl -/

/-- How far a crawl over a distance has come at a time: as far as it can in the part of the period
    that is over. -/
def crawled (distance start length now : Nat) : Nat :=
  distance * min (now - start) length / length

variable {distance start length now later : Nat}

theorem crawled_of_le_start (h : now ≤ start) : crawled distance start length now = 0 := by
  rw [crawled, Nat.sub_eq_zero_of_le h, Nat.zero_min, Nat.mul_zero, Nat.zero_div]

theorem crawled_of_over (lasts : 0 < length) (h : start + length ≤ now) :
    crawled distance start length now = distance := by
  rw [crawled, Nat.min_eq_right (by omega), Nat.mul_div_cancel _ lasts]

/-- A crawl does not go back. -/
theorem crawled_mono (h : now ≤ later) :
    crawled distance start length now ≤ crawled distance start length later :=
  Nat.div_le_div_right (Nat.mul_le_mul_left _ (by omega))

/-- Nor does it jump: in some time it comes as far as in that time of the period, up to a unit. -/
theorem crawled_le_add (h : now ≤ later) :
    crawled distance start length later
      ≤ crawled distance start length now + distance * (later - now) / length + 1 := by
  have hpart : min (later - start) length ≤ min (now - start) length + (later - now) := by omega
  calc crawled distance start length later
      ≤ distance * (min (now - start) length + (later - now)) / length :=
        Nat.div_le_div_right (Nat.mul_le_mul_left _ hpart)
    _ = (distance * min (now - start) length + distance * (later - now)) / length := by
        rw [Nat.mul_add]
    _ ≤ crawled distance start length now + distance * (later - now) / length + 1 :=
        Nat.add_div_le_div_add_div_add_one _ _ _

/-! ## The price -/

/-- A crawl that takes some time always has a price, between the anchors and as far from the first
    as it has come. -/
theorem exists_crawled (current next : Amount) (start now : Nat) (lasts : 0 < length) :
    ∃ price, targetPriceAt current next start length now = .ok price ∧
      Amount.Between current next price ∧
      current.distance price = crawled (current.distance next) start length now := by
  unfold targetPriceAt
  dsimp only
  split
  · rename_i hover
    rw [crawled_of_over lasts (by omega)]
    refine ⟨next, rfl, ?_, rfl⟩
    simp only [Amount.Between, Amount.le_iff]
    omega
  · rename_i hcrawls
    have hpart : now - start ≤ length := by omega
    have hlength : length ≠ 0 := by omega
    rw [crawled, Nat.min_eq_left hpart]
    split
    case isTrue hrises =>
      obtain ⟨distance, hminus, hdistance⟩ := exists_minus hrises
      obtain ⟨way, hmulDiv, hway⟩ := exists_mulDiv_le (a := distance) hpart hlength
      obtain ⟨price, hplus, hprice⟩ := exists_plus (a := current) (b := way) (by
        have := next.isLt
        rw [Amount.le_iff] at hway
        omega)
      have happart : current.distance next = distance.toNat := by
        rw [Amount.distance]
        omega
      simp only [hminus, hmulDiv, hplus, ok_bind]
      refine ⟨price, rfl, ?_, ?_⟩
      · simp only [Amount.Between, Amount.le_iff] at hway ⊢
        omega
      · rw [happart, ← (mulDiv_eq_ok_iff.1 hmulDiv).2, Amount.distance]
        omega
    case isFalse hfalls =>
      obtain ⟨distance, hminus, hdistance⟩ :=
        exists_minus (a := current) (b := next) (Nat.le_of_not_le hfalls)
      obtain ⟨way, hmulDiv, hway⟩ := exists_mulDiv_le (a := distance) hpart hlength
      obtain ⟨price, hprice, hsum⟩ := exists_minus (a := current) (b := way) (by
        rw [Amount.le_iff] at hway ⊢
        omega)
      have happart : current.distance next = distance.toNat := by
        rw [Amount.distance]
        omega
      simp only [hminus, hmulDiv, hprice, ok_bind]
      refine ⟨price, rfl, ?_, ?_⟩
      · simp only [Amount.Between, Amount.le_iff] at hway ⊢
        omega
      · rw [happart, ← (mulDiv_eq_ok_iff.1 hmulDiv).2, Amount.distance]
        omega

theorem targetPriceAt_zero (current next : Amount) (start now : Nat) :
    targetPriceAt current next start 0 now = .ok next := by
  unfold targetPriceAt
  exact if_pos (Or.inl rfl)

/-- A crawl has a price at every time, and the price lies between the anchors. -/
theorem exists_targetPriceAt (current next : Amount) (start length now : Nat) :
    ∃ price, targetPriceAt current next start length now = .ok price ∧
      ((current ≤ price ∧ price ≤ next) ∨ (next ≤ price ∧ price ≤ current)) := by
  rcases Nat.eq_zero_or_pos length with rfl | lasts
  · refine ⟨next, targetPriceAt_zero current next start now, ?_⟩
    simp only [Amount.le_iff]
    omega
  · obtain ⟨price, hprice, hbetween, -⟩ := exists_crawled current next start now lasts
    exact ⟨price, hprice, hbetween⟩

/-- The price of a crawl that takes some time, told by where it is. -/
theorem targetPriceAt_eq_ok_iff {current next price : Amount} (lasts : 0 < length) :
    targetPriceAt current next start length now = .ok price ↔ Amount.Between current next price ∧
      current.distance price = crawled (current.distance next) start length now := by
  obtain ⟨price', hprice', hbetween', hdistance'⟩ := exists_crawled current next start now lasts
  rw [hprice']
  constructor
  · rintro ⟨⟩
    exact ⟨hbetween', hdistance'⟩
  · rintro ⟨hbetween, hdistance⟩
    rw [hbetween'.eq_of_distance hbetween (hdistance'.trans hdistance.symm)]

/-- There is a price for all anchors and at all times. A crawl that takes no time is over. One that
    takes some time has the price on the way to the next anchor, as far from the first as the part
    of the period that is over says, rounded down: it rests there before the period and on the next
    anchor after it. Later prices lie between the price and the next anchor, and no further off than
    the crawl comes in the time between, up to a unit. -/
theorem crawls_steadily (current next : Amount) (start length now : Nat) :
    ∃ price, targetPriceAt current next start length now = .ok price ∧
      (length = 0 → price = next) ∧
      (0 < length →
        Amount.Between current next price ∧
        current.distance price = current.distance next * min (now - start) length / length ∧
        (now ≤ start → price = current) ∧
        (start + length ≤ now → price = next) ∧
        ∀ later price', now ≤ later →
          targetPriceAt current next start length later = .ok price' →
          Amount.Between price next price' ∧
          price.distance price' ≤ current.distance next * (later - now) / length + 1) := by
  rcases Nat.eq_zero_or_pos length with rfl | lasts
  · exact ⟨next, targetPriceAt_zero current next start now, fun _ => rfl,
      fun lasts => absurd lasts (Nat.lt_irrefl 0)⟩
  obtain ⟨price, hprice, hbetween, hdistance⟩ := exists_crawled current next start now lasts
  refine ⟨price, hprice, fun hzero => absurd hzero (Nat.ne_of_gt lasts),
    fun _ => ⟨hbetween, hdistance, ?before, ?after, ?onwards⟩⟩
  case before =>
    intro hbefore
    rw [crawled_of_le_start hbefore, Amount.distance] at hdistance
    apply Amount.ext
    omega
  case after =>
    intro hover
    rw [crawled_of_over lasts hover] at hdistance
    have hlast : Amount.Between current next next := by
      simp only [Amount.Between, Amount.le_iff]
      omega
    exact hbetween.eq_of_distance hlast hdistance
  case onwards =>
    intro later price' hlater hprice'
    obtain ⟨hbetween', hdistance'⟩ := (targetPriceAt_eq_ok_iff lasts).1 hprice'
    have hmono : current.distance price ≤ current.distance price' := by
      rw [hdistance, hdistance']
      exact crawled_mono hlater
    have hstep : current.distance price' ≤ current.distance price
        + current.distance next * (later - now) / length + 1 := by
      rw [hdistance, hdistance']
      exact crawled_le_add hlater
    -- both prices are on the same side of the first anchor
    simp only [Amount.Between, Amount.le_iff, Amount.distance] at hbetween hbetween' hmono hstep ⊢
    omega

/-- On the way down over three seconds the first two take two thirds of the distance, rounded down,
    and the last one takes a unit more than a third. -/
theorem crawls_steadily_of_falling :
    ∃ price, targetPriceAt ⟨1000000, by decide⟩ ⟨900000, by decide⟩ 1000 3 1002 = .ok price ∧
      Amount.distance ⟨1000000, by decide⟩ price = 66666 ∧
      targetPriceAt ⟨1000000, by decide⟩ ⟨900000, by decide⟩ 1000 3 1003
        = .ok ⟨900000, by decide⟩ ∧
      price.distance ⟨900000, by decide⟩ ≤ 33334 := by
  obtain ⟨price, hprice, -, hcrawls⟩ :=
    crawls_steadily ⟨1000000, by decide⟩ ⟨900000, by decide⟩ 1000 3 1002
  obtain ⟨price', hprice', -, hover⟩ :=
    crawls_steadily ⟨1000000, by decide⟩ ⟨900000, by decide⟩ 1000 3 1003
  obtain ⟨-, hdistance, -, -, honwards⟩ := hcrawls (by decide)
  obtain ⟨-, -, -, hlast, -⟩ := hover (by decide)
  obtain rfl := hlast (by decide)
  exact ⟨price, hprice, hdistance, hprice', (honwards 1003 _ (by decide) hprice').2⟩

end Stablecoin

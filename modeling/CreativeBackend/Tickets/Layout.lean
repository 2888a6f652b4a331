import Mathlib

/-!
# The layout of a digital ticket

The coordinates of `SvgBuilderService.buildDigitalTicket`, in exact rational arithmetic: each is
rounded on its own from one of two scale factors, and then added to others.

## Implementation notes

Rounding is monotone, so the smaller of the two scales gives the smaller of the two roundings
(`ss_eq_min`). With that every coordinate is an integer division of the width or the height, and
each inequality of the layout is one of linear arithmetic.
-/

namespace CreativeBackend

/-! ## Rectangles -/

/-- A rectangle of the picture; `y` grows downwards. -/
structure Rect where
  x : ℤ
  y : ℤ
  width : ℤ
  height : ℤ
  deriving DecidableEq

namespace Rect

structure Inside (r s : Rect) : Prop where
  left : s.x ≤ r.x
  right : r.x + r.width ≤ s.x + s.width
  top : s.y ≤ r.y
  bottom : r.y + r.height ≤ s.y + s.height

/-- The rectangle `r` ends before `s` begins. -/
def LeftOf (r s : Rect) : Prop := r.x + r.width ≤ s.x

def Below (r s : Rect) : Prop := s.y + s.height ≤ r.y

end Rect

/-! ## Rounding -/

/-- `Math.round`. -/
def mathRound (x : ℚ) : ℤ := ⌊x + 1 / 2⌋

theorem mathRound_mono {x y : ℚ} (h : x ≤ y) : mathRound x ≤ mathRound y :=
  Int.floor_mono (add_le_add_left h _)

theorem mathRound_min (x y : ℚ) : mathRound (min x y) = min (mathRound x) (mathRound y) := by
  rcases le_total x y with h | h
  · rw [min_eq_left h, min_eq_left (mathRound_mono h)]
  · rw [min_eq_right h, min_eq_right (mathRound_mono h)]

theorem mathRound_div (n : ℤ) {d : ℕ} (hd : 0 < d) :
    mathRound (n / d) = (2 * n + d) / (2 * d : ℕ) := by
  have hd' : (d : ℚ) ≠ 0 := by exact_mod_cast hd.ne'
  have hsum : (n : ℚ) / d + 1 / 2 = ((2 * n + d : ℤ) : ℚ) / ((2 * d : ℕ) : ℚ) := by
    push_cast
    field_simp
  rw [mathRound, hsum, Rat.floor_intCast_div_natCast]

/-! ## The layout -/

/-- The size of a ticket. -/
structure Canvas where
  width : ℤ
  height : ℤ
  width_pos : 0 < width
  height_pos : 0 < height

/-- The constants of the layout, with the times and dates that are shown. -/
structure DigitalTicketLayout where
  outer : Rect
  outerRadius : ℤ
  headerHeight : ℤ
  visitorLabelY : ℤ
  visitorNameY : ℤ
  qrContainer : Rect
  qrContainerRadius : ℤ
  qrSize : ℤ
  qr : Rect
  timeCard : Option Rect
  dateCard : Option Rect

/-- The cards that are shown. -/
def DigitalTicketLayout.cards (l : DigitalTicketLayout) : List Rect :=
  l.timeCard.toList ++ l.dateCard.toList

namespace SvgBuilderService

/-- The reference canvas is 1080 × 1920. -/
def scaleX (c : Canvas) : ℚ := c.width / 1080

def scaleY (c : Canvas) : ℚ := c.height / 1920

def scale (c : Canvas) : ℚ := min (scaleX c) (scaleY c)

def sx (c : Canvas) (value : ℚ) : ℤ := mathRound (value * scaleX c)

def sy (c : Canvas) (value : ℚ) : ℤ := mathRound (value * scaleY c)

def ss (c : Canvas) (value : ℚ) : ℤ := mathRound (value * scale c)

def digitalTicketLayout (c : Canvas) (hasTime hasDate : Bool) : DigitalTicketLayout :=
  let outerX := sx c 72
  let outerY := sy c 44
  let outerWidth := c.width - outerX * 2
  let outerHeight := c.height - outerY * 2
  let headerHeight := sy c 330
  let visitorLabelY := outerY + headerHeight + sy c 66
  let visitorNameY := visitorLabelY + sy c 38
  let qrContainerX := sx c 165
  let qrContainerY := visitorNameY + sy c 125
  let qrContainerWidth := c.width - qrContainerX * 2
  let qrContainerHeight := sy c 680
  let qrPadding := ss c 78
  let qrSize := min (qrContainerWidth - qrPadding * 2) (qrContainerHeight - qrPadding * 2)
  let qrX := mathRound ((c.width - qrSize : ℤ) / 2)
  let qrY := qrContainerY + mathRound ((qrContainerHeight - qrSize : ℤ) / 2)
  let cardsGap := sx c 28
  let cardsMarginX := sx c 108
  let infoCount := hasTime.toNat + hasDate.toNat
  let infoCardHeight := sy c 280
  let infoCardWidth :=
    if infoCount ≤ 1 then c.width - cardsMarginX * 2
    else ⌊((c.width - cardsMarginX * 2 - cardsGap : ℤ) : ℚ) / 2⌋
  let infoCardsY := qrContainerY + qrContainerHeight + sy c 72
  let timeCardX := cardsMarginX
  let dateCardX :=
    if hasTime && hasDate then timeCardX + infoCardWidth + cardsGap else cardsMarginX
  { outer := ⟨outerX, outerY, outerWidth, outerHeight⟩
    outerRadius := ss c 54
    headerHeight
    visitorLabelY
    visitorNameY
    qrContainer := ⟨qrContainerX, qrContainerY, qrContainerWidth, qrContainerHeight⟩
    qrContainerRadius := ss c 48
    qrSize
    qr := ⟨qrX, qrY, qrSize, qrSize⟩
    timeCard :=
      if hasTime then some ⟨timeCardX, infoCardsY, infoCardWidth, infoCardHeight⟩ else none
    dateCard :=
      if hasDate then some ⟨dateCardX, infoCardsY, infoCardWidth, infoCardHeight⟩ else none }

/-! ## Coordinates as integer divisions -/

variable (c : Canvas)

theorem sx_ofNat (n : ℕ) [n.AtLeastTwo] :
    sx c ofNat(n) = (2 * (OfNat.ofNat n * c.width) + 1080) / 2160 := by
  have hscale : (OfNat.ofNat n : ℚ) * scaleX c
      = ((OfNat.ofNat n * c.width : ℤ) : ℚ) / (1080 : ℕ) := by
    unfold scaleX
    push_cast
    ring
  rw [sx, hscale, mathRound_div _ (by omega)]
  rfl

theorem sy_ofNat (n : ℕ) [n.AtLeastTwo] :
    sy c ofNat(n) = (2 * (OfNat.ofNat n * c.height) + 1920) / 3840 := by
  have hscale : (OfNat.ofNat n : ℚ) * scaleY c
      = ((OfNat.ofNat n * c.height : ℤ) : ℚ) / (1920 : ℕ) := by
    unfold scaleY
    push_cast
    ring
  rw [sy, hscale, mathRound_div _ (by omega)]
  rfl

theorem ss_eq_min {value : ℚ} (h : 0 ≤ value) : ss c value = min (sx c value) (sy c value) := by
  unfold ss sx sy scale
  rw [mul_min_of_nonneg _ _ h, mathRound_min]

theorem floor_half (n : ℤ) : ⌊(n : ℚ) / 2⌋ = n / 2 := by
  exact_mod_cast Rat.floor_intCast_div_natCast n 2

theorem mathRound_half (n : ℤ) : mathRound (n / 2) = (n + 1) / 2 := by
  have h := mathRound_div n (d := 2) (by omega)
  push_cast at h
  rw [h]
  omega

/-- The margins of the QR code take no more than the width of its container. -/
theorem qrPadding_width : sx c 165 * 2 + sx c 78 * 2 ≤ c.width := by
  have hw := c.width_pos
  rw [sx_ofNat, sx_ofNat]
  -- From a width of two on, what rounding adds is less than what is left.
  rcases (by omega : c.width = 1 ∨ 2 ≤ c.width) with h | h <;> omega

theorem qrPadding_height : sy c 78 * 2 ≤ sy c 680 := by
  have hh := c.height_pos
  rw [sy_ofNat, sy_ofNat]
  rcases (by omega : c.height ≤ 1 ∨ 2 ≤ c.height) with h | h
  · omega
  · rcases (by omega : c.height ≤ 5 ∨ 6 ≤ c.height) with h | h <;> omega

theorem qrPadding_bounds : 0 ≤ ss c 78 ∧ ss c 78 ≤ sx c 78 ∧ ss c 78 ≤ sy c 78 := by
  have hpadding : ss c 78 = min (sx c 78) (sy c 78) := ss_eq_min c (by norm_num)
  have hw := c.width_pos
  have hh := c.height_pos
  refine ⟨?_, ?_, ?_⟩
  · rw [hpadding, sx_ofNat, sy_ofNat]
    omega
  · omega
  · omega

theorem sx_nonneg {value : ℚ} (h : 0 ≤ value) : 0 ≤ sx c value := by
  have hwidth : (0 : ℚ) ≤ c.width := by exact_mod_cast c.width_pos.le
  apply Int.floor_nonneg.mpr
  unfold scaleX
  positivity

theorem sy_nonneg {value : ℚ} (h : 0 ≤ value) : 0 ≤ sy c value := by
  have hheight : (0 : ℚ) ≤ c.height := by exact_mod_cast c.height_pos.le
  apply Int.floor_nonneg.mpr
  unfold scaleY
  positivity

/-- The parts of the ticket, from its upper to its lower margin, are no higher than the picture. -/
theorem column_fits :
    sy c 44 * 2 + sy c 330 + sy c 66 + sy c 38 + sy c 125 + sy c 680 + sy c 72 + sy c 280
      ≤ c.height := by
  have hh := c.height_pos
  simp only [sy_ofNat]
  generalize c.height = h at *
  -- What rounding adds is under five, and from a height of forty on that much is left.
  rcases (by omega : h < 40 ∨ 40 ≤ h) with hsmall | hlarge
  · interval_cases h <;> decide
  · omega

/-- The margins of the cards and the gap between them leave a width to share. -/
theorem cards_fit : sx c 108 * 2 + sx c 28 ≤ c.width := by
  have hw := c.width_pos
  rw [sx_ofNat, sx_ofNat]
  rcases (by omega : c.width = 1 ∨ 2 ≤ c.width) with h | h <;> omega

/-- A square of the smaller side, less its margins, lies in the middle of the longer side. -/
theorem centred {side size : ℤ} (hsize : size ≤ side) :
    0 ≤ mathRound ((side - size : ℤ) / 2) ∧
      mathRound ((side - size : ℤ) / 2) + size ≤ side := by
  rw [mathRound_half]
  omega

/-! ## The ticket -/

variable {c} {hasTime hasDate : Bool}

theorem qr_inside :
    (digitalTicketLayout c hasTime hasDate).qr.Inside
      (digitalTicketLayout c hasTime hasDate).qrContainer := by
  set l := digitalTicketLayout c hasTime hasDate with hl
  obtain ⟨hpadding, -, -⟩ := qrPadding_bounds c
  have hwidth : l.qrSize ≤ l.qrContainer.width := by
    simp only [hl, digitalTicketLayout]
    omega
  have hheight : l.qrSize ≤ l.qrContainer.height := by
    simp only [hl, digitalTicketLayout]
    omega
  have hcentre := centred hheight
  constructor
  · simp only [hl, digitalTicketLayout, mathRound_half] at hwidth ⊢
    omega
  · simp only [hl, digitalTicketLayout, mathRound_half] at hwidth ⊢
    omega
  · exact le_add_of_nonneg_right hcentre.1
  · exact (add_assoc _ _ _).trans_le (add_le_add_right hcentre.2 _)

theorem container_inside :
    (digitalTicketLayout c hasTime hasDate).qrContainer.Inside
      (digitalTicketLayout c hasTime hasDate).outer := by
  have hcolumn := column_fits c
  have h330 : 0 ≤ sy c 330 := sy_nonneg c (by norm_num)
  have h66 : 0 ≤ sy c 66 := sy_nonneg c (by norm_num)
  have h38 : 0 ≤ sy c 38 := sy_nonneg c (by norm_num)
  have h125 : 0 ≤ sy c 125 := sy_nonneg c (by norm_num)
  have h72 : 0 ≤ sy c 72 := sy_nonneg c (by norm_num)
  have h280 : 0 ≤ sy c 280 := sy_nonneg c (by norm_num)
  have hmargin : sx c 72 ≤ sx c 165 := by
    have hw := c.width_pos
    rw [sx_ofNat, sx_ofNat]
    omega
  constructor <;> simp only [digitalTicketLayout] <;> omega

/-- Each card lies between the side margins, at the height of the cards. -/
theorem card_of_mem {card : Rect}
    (h : card ∈ (digitalTicketLayout c hasTime hasDate).cards) :
    0 ≤ card.width ∧ sx c 108 ≤ card.x ∧ card.x + card.width ≤ c.width - sx c 108 ∧
      card.y = sy c 44 + sy c 330 + sy c 66 + sy c 38 + sy c 125 + sy c 680 + sy c 72 ∧
      card.height = sy c 280 := by
  have hwidth := cards_fit c
  have hgap : 0 ≤ sx c 28 := sx_nonneg c (by norm_num)
  simp only [DigitalTicketLayout.cards, digitalTicketLayout, floor_half] at h
  cases hasTime <;> cases hasDate <;> simp at h
  · subst h
    refine ⟨?_, ?_, ?_, rfl, rfl⟩ <;> dsimp only <;> omega
  · subst h
    refine ⟨?_, ?_, ?_, rfl, rfl⟩ <;> dsimp only <;> omega
  · rcases h with rfl | rfl <;> refine ⟨?_, ?_, ?_, rfl, rfl⟩ <;> dsimp only <;> omega

theorem card_inside {card : Rect} (h : card ∈ (digitalTicketLayout c hasTime hasDate).cards) :
    0 ≤ card.width ∧ 0 ≤ card.height ∧
      card.Inside (digitalTicketLayout c hasTime hasDate).outer := by
  obtain ⟨hwidth, hleft, hright, hy, hheight⟩ := card_of_mem h
  have hcolumn := column_fits c
  have h280 : 0 ≤ sy c 280 := sy_nonneg c (by norm_num)
  have hmargin : sx c 72 ≤ sx c 108 := by
    have hw := c.width_pos
    rw [sx_ofNat, sx_ofNat]
    omega
  have h330 : 0 ≤ sy c 330 := sy_nonneg c (by norm_num)
  have h66 : 0 ≤ sy c 66 := sy_nonneg c (by norm_num)
  have h38 : 0 ≤ sy c 38 := sy_nonneg c (by norm_num)
  have h125 : 0 ≤ sy c 125 := sy_nonneg c (by norm_num)
  have h680 : 0 ≤ sy c 680 := sy_nonneg c (by norm_num)
  have h72 : 0 ≤ sy c 72 := sy_nonneg c (by norm_num)
  refine ⟨hwidth, hheight.symm ▸ h280, ?_⟩
  constructor <;> simp only [digitalTicketLayout, hy, hheight] <;> omega

/-- The time comes before the date. -/
theorem cards_apart {time date : Rect}
    (htime : (digitalTicketLayout c hasTime hasDate).timeCard = some time)
    (hdate : (digitalTicketLayout c hasTime hasDate).dateCard = some date) :
    time.LeftOf date := by
  have hgap : 0 ≤ sx c 28 := sx_nonneg c (by norm_num)
  cases hasTime <;> cases hasDate <;> simp [digitalTicketLayout] at htime hdate
  subst htime hdate
  unfold Rect.LeftOf
  dsimp only
  omega

theorem card_below {card : Rect} (h : card ∈ (digitalTicketLayout c hasTime hasDate).cards) :
    card.Below (digitalTicketLayout c hasTime hasDate).qrContainer := by
  obtain ⟨-, -, -, hy, -⟩ := card_of_mem h
  have h72 : 0 ≤ sy c 72 := sy_nonneg c (by norm_num)
  rw [Rect.Below, hy]
  simp only [digitalTicketLayout]
  omega

/-- What the picture of a ticket needs of its layout. -/
structure Fits (l : DigitalTicketLayout) : Prop where
  qrSize_nonneg : 0 ≤ l.qrSize
  qr_square : l.qr.width = l.qrSize ∧ l.qr.height = l.qrSize
  qr_inside : l.qr.Inside l.qrContainer
  container_inside : l.qrContainer.Inside l.outer
  card_inside : ∀ card ∈ l.cards, 0 ≤ card.width ∧ 0 ≤ card.height ∧ card.Inside l.outer
  cards_apart : ∀ time date, l.timeCard = some time → l.dateCard = some date → time.LeftOf date
  card_below : ∀ card ∈ l.cards, card.Below l.qrContainer
  label_below_header : l.outer.y + l.headerHeight ≤ l.visitorLabelY
  name_below_label : l.visitorLabelY ≤ l.visitorNameY
  container_below_name : l.visitorNameY ≤ l.qrContainer.y

/-- A ticket of any size fits. -/
theorem digitalTicketLayout_fits (c : Canvas) (hasTime hasDate : Bool) :
    Fits (digitalTicketLayout c hasTime hasDate) where
  qrSize_nonneg := by
    have hwidth := qrPadding_width c
    have hheight := qrPadding_height c
    obtain ⟨-, hx, hy⟩ := qrPadding_bounds c
    simp only [digitalTicketLayout]
    omega
  qr_square := ⟨rfl, rfl⟩
  qr_inside := qr_inside
  container_inside := container_inside
  card_inside _ := card_inside
  cards_apart _ _ := cards_apart
  card_below _ := card_below
  label_below_header := le_add_of_nonneg_right (sy_nonneg c (by norm_num))
  name_below_label := le_add_of_nonneg_right (sy_nonneg c (by norm_num))
  container_below_name := le_add_of_nonneg_right (sy_nonneg c (by norm_num))

end SvgBuilderService

end CreativeBackend
